import QueryShell.Proofs.Render.LastError
import QueryShell.Proofs.Session.Invariant

namespace QueryShell

namespace Render.Console

theorem showError_fault_iff (c : Console) (e : ShellError) :
    (c.showError e).2 = none ↔ ∃ message, errorText e = .ok message := by
  unfold showError
  cases errorText e with
  | error fault => simp
  | ok message => simp

theorem showLastError_fault {e : ShellError} (h : ∃ message, errorText e = .ok message)
    (c : Console) : (c.showLastError (some e)).2 = none :=
  (showError_fault_iff _ e).2 h

end Render.Console

namespace Session

open Render (Console)
open Statement (CharacterNames read)

namespace State

def Showable (s : State) : Prop :=
  ∀ e, s.lastError = some e → ∃ message, Console.errorText e = .ok message

theorem Fresh.showable {s : State} (h : s.Fresh) : s.Showable := by
  intro e he
  rw [h.lastError] at he
  cases he

theorem showing_showable {s : State} {e : ShellError} (he : s.lastError = some e)
    (hfault : (s.showing (s.console.showError e)).2 = none) :
    (s.showing (s.console.showError e)).1.Showable := by
  intro e' he'
  have hsame : some e' = some e := he'.symm.trans he
  cases hsame
  exact (Console.showError_fault_iff s.console e).1 hfault

theorem report_showable {s : State} (h : s.Showable) {outcome : Outcome}
    (hfault : (s.report outcome).2 = none) : (s.report outcome).1.Showable := by
  unfold report at hfault ⊢
  split at hfault
  · next e he => exact showing_showable rfl hfault
  · exact h

theorem evaluate_showable [Text.Codecs] {s : State} (h : s.Showable) {nodes : List Statement.Node}
    (hfault : (s.evaluate nodes).2 = none) : (s.evaluate nodes).1.Showable := by
  rw [evaluate_eq] at hfault ⊢
  refine report_showable ?_ hfault
  exact h

theorem showable_of_turned [Text.Codecs] {s next : State} {console : Console} {t : Turn}
    (h : s.Showable) (hnext : next = { s.turned t with console := console })
    (ht : t = .kept ∨ t = .dropped ∨ t = .closed) : next.Showable := by
  rcases ht with rfl | rfl | rfl <;> rw [hnext] <;> exact h

variable [CharacterNames] [Text.Codecs] {s : State} {input : Input}

theorem accept_showable (h : s.Showable) {line : List Char}
    (hfault : (s.accept line).2 = none) : (s.accept line).1.Showable := by
  unfold accept at hfault ⊢
  cases hread : read (joined (s.buffer ++ [line])) with
  | incomplete => simp only [hread]; exact h
  | malformed e =>
      simp only [hread] at hfault ⊢
      exact showing_showable rfl hfault
  | parsed nodes =>
      simp only [hread] at hfault ⊢
      refine evaluate_showable ?_ hfault
      exact h
  | escaped fault => simp only [hread]; exact h

theorem step_showable (h : s.Showable) (hfault : (s.step input).2 = none) :
    (s.step input).1.Showable := by
  cases hrun : s.isRunning with
  | false =>
      rw [step_closed (phase_of_not_running hrun)]
      exact h
  | true =>
      rcases turn_cases s.buffer input with hturn | ⟨line, rfl, hline⟩
      · obtain ⟨console, hstep⟩ := step_turned hrun input
        exact showable_of_turned h hstep hturn
      · rw [step_accept hrun hline] at hfault ⊢
        exact accept_showable h hfault

theorem after_showable (h : s.Showable) {inputs : List Input} (hcalm : s.Calm inputs) :
    (s.after inputs).Showable := by
  induction inputs generalizing s with
  | nil => exact h
  | cons input inputs ih => exact ih (step_showable h hcalm.1) hcalm.2

theorem step_keeps_lastError
    (h : ∀ x, turn s.buffer input = .submitted x → x.error? s.client s.bindings s.line = none) :
    (s.step input).1.lastError = s.lastError := by
  cases hrun : s.isRunning with
  | false => rw [step_closed (phase_of_not_running hrun)]
  | true =>
      obtain ⟨console, hstep⟩ := step_turned hrun input
      rw [hstep]
      cases hturn : turn s.buffer input with
      | submitted x =>
          simp only [turned, h x hturn]
          rfl
      | _ => rfl

theorem step_showLastError (hrun : s.isRunning = true) (h : s.Showable) {line : List Char}
    (hline : metaLine? line = some (.bare "last_error")) :
    s.step (.line line) =
      ({ s with console := (s.console.showLastError s.lastError).1 }, none) := by
  have hget : Registry.get? shellCommands (String.ofList (MetaLine.bare "last_error").name) =
      some ⟨"last_error", "Display the last error", .lastError⟩ := by decide
  have hshown : (s.console.showLastError s.lastError).2 = none := by
    cases he : s.lastError with
    | none => rfl
    | some e => exact Console.showLastError_fault (h e he) s.console
  rw [step_line]
  simp only [handleLine, hrun, hline, runCommand, hget, act, showing, if_true]
  rw [hshown]
  rfl

theorem after_showLastError (h : s.Fresh) {inputs : List Input} (hcalm : s.Calm inputs)
    (hrun : (s.after inputs).isRunning = true) {line : List Char}
    (hline : metaLine? line = some (.bare "last_error")) :
    ∃ console, (s.after inputs).console.ShowsLast (s.after inputs).lastError console ∧
      (s.after inputs).step (.line line) =
        ({ s.after inputs with console := console }, none) :=
  have hshowable := after_showable h.showable hcalm
  ⟨_, Console.showLastError_shows _ hshowable, step_showLastError hrun hshowable hline⟩

structure KeepsLatest (s : State) (inputs : List Input) : Prop where
  latest :
    (s.after inputs).lastError =
      (failures s.client s.bindings s.line (submissions s.buffer inputs)).getLast?
  kept : ∀ input,
    (∀ x, turn (s.after inputs).buffer input = .submitted x →
      x.error? s.client s.bindings (s.after inputs).line = none) →
    ((s.after inputs).step input).1.lastError = (s.after inputs).lastError
  shown : s.Calm inputs → (s.after inputs).isRunning = true → ∀ line,
    metaLine? line = some (.bare "last_error") →
    ∃ console,
      (s.after inputs).console.ShowsLast
        (failures s.client s.bindings s.line (submissions s.buffer inputs)).getLast? console ∧
      (s.after inputs).step (.line line) = ({ s.after inputs with console := console }, none)

theorem keepsLatest_of_fresh (h : s.Fresh) (inputs : List Input) : s.KeepsLatest inputs := by
  have hlatest : (s.after inputs).lastError =
      (failures s.client s.bindings s.line (submissions s.buffer inputs)).getLast? := by
    rw [(after_submissions h.isRunning inputs).2, h.lastError, Option.or_none]
  refine ⟨hlatest, ?_, ?_⟩
  · intro input hquiet
    obtain ⟨hclient, hbindings, -, -⟩ := s.after_setup inputs
    rw [← hclient, ← hbindings] at hquiet
    exact step_keeps_lastError hquiet
  · intro hcalm hrun line hline
    rw [← hlatest]
    exact after_showLastError h hcalm hrun hline

end State

theorem keepsLatest_troubledInputs :
    interruptedSession.Fresh ∧ interruptedSession.KeepsLatest troubledInputs :=
  ⟨fresh_interruptedSession, State.keepsLatest_of_fresh fresh_interruptedSession troubledInputs⟩

end Session

end QueryShell
