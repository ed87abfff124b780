import QueryShell.Proofs.Statement.Reached
import QueryShell.Proofs.Statement.Scanning

namespace QueryShell.Statement

inductive Outlook (text : List Char) : Outline → Prop where
  | complete {ts : List Token} {forms : List Form} : Splits text ts [] → Program ts forms →
      Outlook text (.complete forms)
  | unfinished {ts : List Token} : Splits text ts [] → Viable ts →
      (∀ forms, ¬ Program ts forms) → Outlook text .unfinished
  | unexpectedToken {ts : List Token} {rest : List Char} {offset : Nat} {t : Token} :
      Splits text ts rest → ¬ Viable ts → Outlook text (.unexpectedToken offset t)
  | unexpectedChar {ts : List Token} {offset : Nat} {c : Char} {rest : List Char} :
      Splits text ts (c :: rest) → Viable ts → Blocked (c :: rest) →
      offset + (c :: rest).length = text.length → Outlook text (.unexpectedChar offset c)

theorem outlineFrom_append {m last : Machine} {tokens : List (Nat × Token)}
    (h : m.run (tokens.map Prod.snd) = some last) (more : List (Nat × Token)) (stop : Stop) :
    outlineFrom m (tokens ++ more) stop = outlineFrom last more stop := by
  induction tokens generalizing m with
  | nil => cases h; rfl
  | cons placed tokens ih =>
      obtain ⟨next, hstep, hrun⟩ := Option.bind_eq_some_iff.1 h
      rw [List.cons_append, outlineFrom, hstep]
      exact ih hrun

theorem outlineFrom_of_run {m last : Machine} {tokens : List (Nat × Token)} (stop : Stop)
    (h : m.run (tokens.map Prod.snd) = some last) :
    outlineFrom m tokens stop = outlineFrom last [] stop := by
  have hrun := outlineFrom_append h [] stop
  rwa [List.append_nil] at hrun

theorem outlineFrom_of_no_run {m : Machine} {tokens : List (Nat × Token)} (stop : Stop)
    (h : m.run (tokens.map Prod.snd) = none) :
    ∃ offset t, outlineFrom m tokens stop = .unexpectedToken offset t := by
  induction tokens generalizing m with
  | nil => cases h
  | cons placed tokens ih =>
      obtain ⟨offset, t⟩ := placed
      cases hstep : m.step t with
      | none => exact ⟨offset, t, by rw [outlineFrom, hstep]⟩
      | some next =>
          rw [List.map_cons, Machine.run_cons_of_step hstep] at h
          rw [outlineFrom, hstep]
          exact ih h

theorem outline_outlook (text : List Char) : Outlook text (outline text) := by
  obtain ⟨rest, hsplits, hstop⟩ := scanFrom_splits 0 text
  rw [Nat.zero_add] at hstop
  cases hrun : Machine.start.run ((scanFrom 0 text).tokens.map Prod.snd) with
  | none =>
      obtain ⟨offset, t, heq⟩ := outlineFrom_of_no_run (scanFrom 0 text).stop hrun
      have hout : outline text = .unexpectedToken offset t := heq
      rw [hout]
      refine .unexpectedToken hsplits ?_
      rw [viable_iff_run, hrun]
      rintro ⟨m, hm⟩
      cases hm
  | some last =>
      have hviable := viable_iff_run.2 ⟨last, hrun⟩
      have hout : outline text = outlineFrom last [] (scanFrom 0 text).stop :=
        outlineFrom_of_run (scanFrom 0 text).stop hrun
      rw [hout]
      generalize (scanFrom 0 text).stop = stop at hstop
      cases hstop with
      | stuck hblocked hplace => exact .unexpectedChar hsplits hviable hblocked hplace
      | finished =>
          cases hfinish : last.finish with
          | some forms =>
              have hprogram := program_iff_run.2 ⟨last, hrun, hfinish⟩
              rw [outlineFrom, hfinish]
              exact .complete hsplits hprogram
          | none =>
              rw [outlineFrom, hfinish]
              refine .unfinished hsplits hviable fun forms hprogram => ?_
              obtain ⟨m, hm, hforms⟩ := program_iff_run.1 hprogram
              cases hrun.symm.trans hm
              cases hfinish.symm.trans hforms

theorem Program.unique {ts : List Token} {forms forms' : List Form} (h : Program ts forms)
    (h' : Program ts forms') : forms = forms' := by
  obtain ⟨m, hm, hforms⟩ := program_iff_run.1 h
  obtain ⟨m', hm', hforms'⟩ := program_iff_run.1 h'
  cases hm.symm.trans hm'
  exact Option.some.inj (hforms.symm.trans hforms')

theorem Program.viable {ts : List Token} {forms : List Form} (h : Program ts forms) :
    Viable ts :=
  ⟨[], forms, by rwa [List.append_nil]⟩

theorem Program.ne_nil {ts : List Token} {forms : List Form} (h : Program ts forms) :
    ts ≠ [] := by
  rintro rfl
  obtain ⟨m, hm, hfinish⟩ := program_iff_run.1 h
  cases hm
  cases hfinish

theorem Splits.unique {text : List Char} {ts us : List Token} (h : Splits text ts [])
    (h' : Splits text us []) : ts = us := by
  obtain ⟨vs, hvs, hrest⟩ := h.factor h'
  cases hrest with
  | done => rw [hvs, List.append_nil]
  | token hlex => cases hlex.token?_eq

theorem outline_of_program {text : List Char} {ts : List Token} {forms : List Form}
    (hsplits : Splits text ts []) (hprogram : Program ts forms) :
    outline text = .complete forms := by
  have hlook := outline_outlook text
  generalize outline text = out at hlook
  cases hlook with
  | complete hs hp =>
      obtain rfl := hs.unique hsplits
      rw [hp.unique hprogram]
  | unfinished hs _ hno =>
      obtain rfl := hs.unique hsplits
      exact absurd hprogram (hno forms)
  | unexpectedToken hs hno =>
      obtain ⟨vs, rfl, -⟩ := hsplits.factor hs
      exact absurd hprogram.viable.left hno
  | unexpectedChar hs _ hblocked =>
      obtain ⟨vs, -, hrest⟩ := hsplits.factor hs
      exact absurd hrest hblocked.not_splits

end QueryShell.Statement
