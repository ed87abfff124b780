import QueryShell.Render.Report

namespace QueryShell.Render.Console

open Session (Registry)

def later (c : Console) (calls : Nat) (text : String) : Console :=
  { c with calls := c.calls + calls, output := c.output ++ text }

theorem later_zero (c : Console) : c.later 0 "" = c := by
  simp [later]

theorem later_later (c : Console) (calls more : Nat) (text rest : String) :
    (c.later calls text).later more rest = c.later (calls + more) (text ++ rest) := by
  simp [later, Nat.add_assoc, String.append_assoc]

structure Alike (c d : Console) : Prop where
  width : d.width = c.width
  fails : ∀ n, d.fails (d.calls + n) = c.fails (c.calls + n)

theorem Alike.refl (c : Console) : Alike c c :=
  ⟨rfl, fun _ => rfl⟩

structure AlikeSince (c d c' d' : Console) : Prop where
  alike : Alike c d
  later : ∃ calls text, c' = c.later calls text ∧ d' = d.later calls text

theorem Alike.since {c d : Console} (h : Alike c d) : AlikeSince c d c d :=
  ⟨h, 0, "", c.later_zero.symm, d.later_zero.symm⟩

variable {c d c' d' : Console}

theorem AlikeSince.width (h : AlikeSince c d c' d') : d'.width = c'.width := by
  obtain ⟨calls, text, rfl, rfl⟩ := h.later
  exact h.alike.width

theorem AlikeSince.further (h : AlikeSince c d c' d') (calls : Nat) (text : String) :
    AlikeSince c d (c'.later calls text) (d'.later calls text) := by
  obtain ⟨before, printed, rfl, rfl⟩ := h.later
  exact ⟨h.alike, before + calls, printed ++ text, c.later_later .., d.later_later ..⟩

theorem AlikeSince.print? (h : AlikeSince c d c' d') (lines : Except Fault (List (List Char))) :
    (d'.print? lines).2 = (c'.print? lines).2 ∧
      AlikeSince c d (c'.print? lines).1 (d'.print? lines).1 := by
  have hnow : d'.fails d'.calls = c'.fails c'.calls := by
    obtain ⟨calls, text, rfl, rfl⟩ := h.later
    exact h.alike.fails calls
  have hcalled : AlikeSince c d { c' with calls := c'.calls + 1 }
      { d' with calls := d'.calls + 1 } := by
    simpa [Console.later] using h.further 1 ""
  unfold Console.print?
  rw [hnow]
  cases c'.fails c'.calls with
  | true => exact ⟨rfl, hcalled⟩
  | false =>
      cases lines with
      | error fault => exact ⟨rfl, hcalled⟩
      | ok lines => exact ⟨rfl, h.further 1 (linesText lines)⟩

theorem AlikeSince.printBare? (h : AlikeSince c d c' d') (thing : Printable) :
    (d'.printBare? thing).2 = (c'.printBare? thing).2 ∧
      AlikeSince c d (c'.printBare? thing).1 (d'.printBare? thing).1 := by
  unfold Console.printBare?
  cases thing.bare with
  | error fault => exact ⟨rfl, h⟩
  | ok text =>
      rw [h.width]
      exact h.print? _

theorem AlikeSince.print (h : AlikeSince c d c' d') (thing : Printable) :
    AlikeSince c d (c'.print thing) (d'.print thing) := by
  unfold Console.print
  rw [h.width]
  obtain ⟨hdone, hfirst⟩ := h.print? (thing.lines c'.width)
  obtain ⟨hbare, hsecond⟩ := hfirst.printBare? thing
  simp only [hdone, hbare]
  split
  · exact hfirst
  · split
    · exact hsecond
    · rw [hsecond.width]
      exact (hsecond.print? _).2

theorem AlikeSince.showValue (h : AlikeSince c d c' d') (openAll : Bool) (v : Value) :
    AlikeSince c d (c'.showValue openAll v) (d'.showValue openAll v) :=
  h.print _

theorem AlikeSince.showMarkup (h : AlikeSince c d c' d') (markup : List Char) (bare : Str) :
    AlikeSince c d (c'.showMarkup markup bare) (d'.showMarkup markup bare) :=
  h.print _

theorem AlikeSince.showMessage (h : AlikeSince c d c' d') (message : String) :
    AlikeSince c d (c'.showMessage message) (d'.showMessage message) :=
  h.showMarkup _ message

theorem AlikeSince.showCommands {α : Type} (h : AlikeSince c d c' d') (registry : Registry α) :
    AlikeSince c d (c'.showCommands registry) (d'.showCommands registry) :=
  h.print _

theorem AlikeSince.showError (h : AlikeSince c d c' d') (e : ShellError) :
    (d'.showError e).2 = (c'.showError e).2 ∧
      AlikeSince c d (c'.showError e).1 (d'.showError e).1 := by
  unfold Console.showError
  cases errorText e with
  | error fault => exact ⟨rfl, h⟩
  | ok message =>
      have hmessage := h.showMarkup (errorMark ++ escape message.shown) message
      refine ⟨rfl, ?_⟩
      simp only
      split
      · exact hmessage
      · exact hmessage.showValue true e.payload

theorem AlikeSince.showLastError (h : AlikeSince c d c' d') (e : Option ShellError) :
    (d'.showLastError e).2 = (c'.showLastError e).2 ∧
      AlikeSince c d (c'.showLastError e).1 (d'.showLastError e).1 := by
  cases e with
  | none => exact ⟨rfl, h.showMessage noErrorMessage⟩
  | some e => exact (h.print _).showError e

theorem AlikeSince.drop_eq {c'' d'' : Console} (h : AlikeSince c d c' d')
    (h' : AlikeSince c d c'' d'') :
    d''.output.toList.drop d'.output.toList.length =
      c''.output.toList.drop c'.output.toList.length := by
  obtain ⟨calls, text, rfl, rfl⟩ := h.later
  obtain ⟨calls', text', rfl, rfl⟩ := h'.later
  simp only [Console.later, String.toList_append, List.length_append, List.drop_length_add_append]

end QueryShell.Render.Console
