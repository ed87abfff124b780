import QueryShell.Proofs.Render.Markup
import QueryShell.Proofs.Render.Printing

namespace QueryShell.Render.Console

def FailsAtFirst (c : Console) (thing : Printable) : Prop :=
  c.fails c.calls = true ∨ ∃ fault, thing.lines c.width = .error fault

inductive FailsAgain (c : Console) (thing : Printable) : (calls : Nat) → Prop where
  | unwritten {fault : Fault} : thing.bare = .error fault → FailsAgain c thing 1
  | call {text : Str} : thing.bare = .ok text → c.fails (c.calls + 1) = true →
      FailsAgain c thing 2

inductive Prints (c : Console) (thing : Printable) : Console → Prop where
  | whole {lines : List (List Char)} : thing.lines c.width = .ok lines →
      c.fails c.calls = false → Prints c thing (c.later 1 (linesText lines))
  | bare {text : Str} : FailsAtFirst c thing → thing.bare = .ok text →
      c.fails (c.calls + 1) = false →
      Prints c thing (c.later 2 (linesText (plainLines c.width text.shown)))
  | mark {calls : Nat} : FailsAtFirst c thing → FailsAgain c thing calls →
      c.fails (c.calls + calls) = false →
      Prints c thing (c.later (calls + 1) (linesText
        (plainLines c.width ("<unrenderable " ++ thing.typeName ++ ">").toList)))
  | nothing {calls : Nat} : FailsAtFirst c thing → FailsAgain c thing calls →
      c.fails (c.calls + calls) = true → Prints c thing (c.later (calls + 1) "")

theorem print?_failed {c : Console} {lines : Except Fault (List (List Char))}
    (h : c.fails c.calls = true ∨ ∃ fault, lines = .error fault) :
    c.print? lines = (c.later 1 "", false) := by
  unfold print?
  rcases h with h | ⟨fault, rfl⟩
  · rw [h]
    simp [later]
  · cases c.fails c.calls <;> simp [later]

theorem print?_done {c : Console} (h : c.fails c.calls = false) (lines : List (List Char)) :
    c.print? (.ok lines) = (c.later 1 (linesText lines), true) := by
  simp [print?, h, later]

theorem prints_mark {c : Console} {thing : Printable} {calls : Nat} (h : FailsAtFirst c thing)
    (hagain : FailsAgain c thing calls) :
    Prints c thing (((c.later calls "").print? (.ok (plainLines c.width
      ("<unrenderable " ++ thing.typeName ++ ">").toList))).1) := by
  cases hcall : c.fails (c.calls + calls) with
  | false =>
      rw [print?_done (c := c.later calls "") hcall, later_later, String.empty_append]
      exact .mark h hagain hcall
  | true =>
      rw [print?_failed (c := c.later calls "") (.inl hcall), later_later, String.empty_append]
      exact .nothing h hagain hcall

theorem prints_print (c : Console) (thing : Printable) : Prints c thing (c.print thing) := by
  by_cases hfirst : FailsAtFirst c thing
  · unfold print
    rw [print?_failed hfirst]
    unfold printBare?
    cases hbare : thing.bare with
    | error fault => exact prints_mark hfirst (.unwritten hbare)
    | ok text =>
        cases hcall : c.fails (c.calls + 1) with
        | false =>
            simp only [print?_done (c := c.later 1 "") hcall, later_later, String.empty_append]
            exact .bare hfirst hbare hcall
        | true =>
            simp only [print?_failed (c := c.later 1 "") (.inl hcall), later_later,
              String.empty_append]
            exact prints_mark hfirst (.call hbare hcall)
  · obtain ⟨hcall, hlines⟩ := not_or.1 hfirst
    cases hwhole : thing.lines c.width with
    | error fault => exact absurd ⟨fault, hwhole⟩ hlines
    | ok lines =>
        have hcalled : c.fails c.calls = false := by simpa using hcall
        unfold print
        rw [hwhole, print?_done hcalled]
        exact .whole hwhole hcalled

/-- A message that counts as false says nothing; the text of the error stands for it. -/
inductive Says (e : ShellError) : Str → Prop where
  | message {s : Str} : e.message = .str s → s ≠ [] → Says e s
  | text {s : Str} : e.message.truthy = false → e.message.text = .ok s → Says e s

theorem says_of_errorText {e : ShellError} {s : Str} (h : errorText e = .ok s) : Says e s := by
  unfold errorText at h
  cases htruthy : e.message.truthy with
  | false =>
      rw [htruthy] at h
      exact .text htruthy h
  | true =>
      rw [htruthy] at h
      cases hmessage : e.message with
      | str t =>
          rw [hmessage] at h htruthy
          cases h
          refine .message hmessage ?_
          rintro rfl
          cases htruthy
      | _ =>
          rw [hmessage] at h
          cases h

def noErrorLine : Printable where
  lines := fun width =>
    .ok (wrap .fold width (withoutControls "No error has been recorded in this session.".toList))
  bare := .ok (Text.quoted "No error has been recorded in this session.")
  typeName := "str"

def represented (e : ShellError) : Except Fault Str :=
  e.message.inspect.map fun message => e.cause.name ++ "(" ++ message ++ ")"

def errorItself (e : ShellError) : Printable where
  lines := fun width => .ok ((View.leaf (represented e)).lines ⟨width, false⟩)
  bare := represented e
  typeName := e.cause.name

def errorLine (message : Str) (shown : List Char) : Printable where
  lines := fun width => .ok (wrap .fold width (withoutControls ("Error: ".toList ++ shown)))
  bare := .ok (Text.quoted message)
  typeName := "str"

def payloadOpened (payload : Value) : Printable where
  lines := fun width => .ok ((View.ofValue payload).lines ⟨width, true⟩)
  bare := payload.inspect
  typeName := payload.typeName

inductive PrintsPayload (c : Console) : Value → Console → Prop where
  | absent : PrintsPayload c .null c
  | given {payload : Value} {c' : Console} : payload ≠ .null →
      Prints c (payloadOpened payload) c' → PrintsPayload c payload c'

inductive ShowsLast (c : Console) : Option ShellError → Console → Prop where
  | none {c' : Console} : Prints c noErrorLine c' → ShowsLast c none c'
  | some {e : ShellError} {message : Str} {shown : List Char} {c₁ c₂ c₃ : Console} :
      Prints c (errorItself e) c₁ → Says e message →
      markupText (errorMark ++ escape message.shown) = .ok ("Error: ".toList ++ shown) →
      ShownMessage message.shown shown → Prints c₁ (errorLine message shown) c₂ →
      PrintsPayload c₂ e.payload c₃ → ShowsLast c (some e) c₃

theorem showMarkup_prints (c : Console) {markup cs : List Char} (h : markupText markup = .ok cs)
    (message : Str) :
    Prints c
      { lines := fun width => .ok (wrap .fold width (withoutControls cs))
        bare := .ok (Text.quoted message)
        typeName := "str" }
      (c.showMarkup markup message) := by
  have hlines : (fun width => markupLines width markup) =
      fun width => .ok (wrap .fold width (withoutControls cs)) := by
    funext width
    rw [markupLines, h]
    rfl
  rw [showMarkup, hlines]
  exact prints_print c _

theorem markupText_noError :
    markupText (escape noErrorMessage.toList) = .ok noErrorMessage.toList := by
  rfl

theorem showError_prints {c : Console} {e : ShellError} {message : Str}
    (h : errorText e = .ok message) :
    ∃ shown c', markupText (errorMark ++ escape message.shown) = .ok ("Error: ".toList ++ shown) ∧
      ShownMessage message.shown shown ∧ Prints c (errorLine message shown) c' ∧
      PrintsPayload c' e.payload (c.showError e).1 := by
  obtain ⟨shown, hshown, htext⟩ := markupText_error message.shown
  refine ⟨shown, _, htext, hshown, showMarkup_prints c htext message, ?_⟩
  unfold showError
  rw [h]
  cases hpayload : e.payload with
  | null => exact .absent
  | _ => exact .given nofun (prints_print _ _)

theorem showLastError_shows (c : Console) {e : Option ShellError}
    (h : ∀ error, e = some error → ∃ message, errorText error = .ok message) :
    ShowsLast c e (c.showLastError e).1 := by
  cases e with
  | none => exact .none (showMarkup_prints c markupText_noError noErrorMessage)
  | some e =>
      obtain ⟨message, hmessage⟩ := h e rfl
      obtain ⟨shown, c', htext, hshown, hline, hpayload⟩ :=
        showError_prints (c := c.print (errorItself e)) hmessage
      exact .some (c.prints_print _) (says_of_errorText hmessage) htext hshown hline hpayload

end QueryShell.Render.Console
