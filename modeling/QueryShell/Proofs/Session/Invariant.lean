import QueryShell.Proofs.Session.Runs

namespace QueryShell.Session

open Statement (CharacterNames isBlank read)

namespace State

inductive Resting (s : State) : Prop where
  | idle (h : s.phase = .idle)
  | accumulating (h : s.phase = .accumulating) (hbuffer : s.buffer ≠ [])
  | closed (h : s.phase = .closed)

theorem Fresh.resting {s : State} (h : s.Fresh) : s.Resting :=
  .idle h.phase

theorem Resting.turned [Text.Codecs] {s : State} (h : s.Resting) (t : Turn) :
    (s.turned t).Resting := by
  cases t with
  | kept => exact h
  | dropped =>
      cases h with
      | idle h => exact .idle (by simp [State.turned, abort, h])
      | accumulating h _ => exact .idle (by simp [State.turned, abort, h])
      | closed h => exact .closed (by simp [State.turned, abort, h])
  | continued line => exact .accumulating rfl (by simp [State.turned])
  | submitted x => exact .idle rfl
  | escaped line =>
      cases h with
      | idle h => exact .idle h
      | accumulating h _ => exact .accumulating h (by simp [State.turned])
      | closed h => exact .closed h
  | closed => exact .closed rfl

theorem Resting.phase_of_empty {s : State} (h : s.Resting) (hrun : s.isRunning = true)
    (hbuffer : s.buffer = []) : s.phase = .idle := by
  cases h with
  | idle h => exact h
  | accumulating _ hne => exact absurd hbuffer hne
  | closed h =>
      rw [isRunning, h] at hrun
      cases hrun

theorem prompt_eq_continuation_iff (s : State) :
    s.prompt = continuationPrompt ↔ s.buffer ≠ [] := by
  unfold prompt
  cases hbuffer : s.buffer with
  | nil =>
      simp only [List.isEmpty_nil, if_true, ne_eq, not_true_eq_false, iff_false]
      intro h
      have hchars := congrArg (fun text : String => text.toList.reverse) h
      simp [continuationPrompt] at hchars
  | cons line lines => simp

variable [CharacterNames] {s : State} {input : Input}

theorem not_blank_of_held {group : List (List Char)} (h : Held group) :
    ∀ first rest, group = first :: rest → isBlank first = false := by
  induction h with
  | nil =>
      intro first rest heq
      cases heq
  | @snoc group line _ hline _ _ ih =>
      intro first rest heq
      cases group with
      | nil =>
          cases heq
          exact hline rfl
      | cons head tail =>
          cases heq
          exact ih _ _ rfl

structure Steady (s : State) : Prop where
  resting : s.Resting
  held : Held s.buffer
  idle : s.phase = .idle → s.buffer = []

theorem Fresh.steady (h : s.Fresh) : s.Steady where
  resting := h.resting
  held := by
    rw [h.buffer]
    exact .nil
  idle := fun _ => h.buffer

structure Consistent (s : State) : Prop where
  settled : s.phase ≠ .evaluating
  accumulating : s.isRunning = true → (s.phase = .accumulating ↔ s.buffer ≠ [])
  idle : s.isRunning = true → (s.phase = .idle ↔ s.buffer = [])
  begun : ∀ first rest, s.buffer = first :: rest → isBlank first = false
  unfinished : s.buffer ≠ [] → read (joined s.buffer) = .incomplete
  prompt : s.prompt = continuationPrompt ↔ s.buffer ≠ []

theorem Steady.consistent (h : s.Steady) : s.Consistent where
  settled := by
    intro heq
    cases h.resting <;> simp_all
  accumulating := by
    intro hrun
    constructor
    · intro heq hnil
      rw [h.resting.phase_of_empty hrun hnil] at heq
      cases heq
    · intro hne
      cases h.resting with
      | idle hidle => exact absurd (h.idle hidle) hne
      | accumulating hphase _ => exact hphase
      | closed hclosed =>
          rw [isRunning, hclosed] at hrun
          cases hrun
  idle := fun hrun => ⟨h.idle, h.resting.phase_of_empty hrun⟩
  begun := not_blank_of_held h.held
  unfinished := h.held.read_eq
  prompt := s.prompt_eq_continuation_iff

variable [Text.Codecs]

theorem Resting.step (h : s.Resting) (input : Input) : (s.step input).1.Resting := by
  obtain ⟨t, console, hstep⟩ := s.step_moves input
  rw [hstep]
  cases h.turned t with
  | idle h => exact .idle h
  | accumulating h hbuffer => exact .accumulating h hbuffer
  | closed h => exact .closed h

theorem Resting.after (h : s.Resting) (inputs : List Input) : (s.after inputs).Resting := by
  induction inputs generalizing s with
  | nil => exact h
  | cons input inputs ih => exact ih (h.step input)

theorem fault_of_escaped (hrun : s.isRunning = true) {line : List Char}
    (hline : IsRead s.buffer line) {fault : Fault}
    (hread : read (joined (s.buffer ++ [line])) = .escaped fault) :
    (s.step (.line line)).2 = some fault := by
  rw [step_accept hrun hline]
  simp only [accept, hread]

theorem Steady.turned (h : s.Steady) (hrun : s.isRunning = true)
    (hfault : (s.step input).2 = none) : (s.turned (turn s.buffer input)).Steady := by
  have hresting := h.resting.turned (turn s.buffer input)
  rcases turn_cases s.buffer input with hturn | ⟨line, rfl, hline⟩
  · rcases hturn with hturn | hturn | hturn <;> rw [hturn] at hresting ⊢
    · exact ⟨hresting, h.held, h.idle⟩
    · exact ⟨hresting, .nil, fun _ => rfl⟩
    · exact ⟨hresting, h.held, fun hidle => by cases hidle⟩
  · rw [hline.turn_eq] at hresting ⊢
    cases hread : read (joined (s.buffer ++ [line])) with
    | incomplete =>
        rw [hread] at hresting
        have hfirst : s.buffer = [] → isBlank line = false := by
          intro hnil
          rw [hnil] at hline
          exact hline.not_blank
        exact ⟨hresting, h.held.snoc hfirst hline.noCommand hread, fun hidle => by cases hidle⟩
    | malformed e => exact ⟨.idle rfl, .nil, fun _ => rfl⟩
    | parsed nodes => exact ⟨.idle rfl, .nil, fun _ => rfl⟩
    | escaped fault =>
        rw [fault_of_escaped hrun hline hread] at hfault
        cases hfault

theorem Steady.step (h : s.Steady) (hfault : (s.step input).2 = none) :
    (s.step input).1.Steady := by
  cases hrun : s.isRunning with
  | false =>
      rw [step_closed (phase_of_not_running hrun)]
      exact h
  | true =>
      obtain ⟨console, hstep⟩ := step_turned hrun input
      have hturned := h.turned hrun hfault
      exact ⟨h.resting.step input, by rw [hstep]; exact hturned.held,
        by rw [hstep]; exact hturned.idle⟩

theorem Steady.after (h : s.Steady) {inputs : List Input} (hcalm : s.Calm inputs) :
    (s.after inputs).Steady := by
  induction inputs generalizing s with
  | nil => exact h
  | cons input inputs ih => exact ih (h.step hcalm.1) hcalm.2

theorem consistent_after {inputs : List Input} (h : s.Fresh) (hcalm : s.Calm inputs) :
    (s.after inputs).Consistent ∧
      ((s.after inputs).phase = .closed → ∀ later input,
        ((s.after inputs).after later).step input = (s.after inputs, none)) := by
  refine ⟨(h.steady.after hcalm).consistent, ?_⟩
  intro hclosed later input
  rw [after_closed hclosed, step_closed hclosed]

end State

def leavingInputs : List Input :=
  troubledInputs ++ [.line ['G', 'e', 't', '('], .line ['.', 'e', 'x', 'i', 't']]

theorem consistent_after_leavingInputs :
    interruptedSession.Fresh ∧ interruptedSession.Calm leavingInputs ∧
      (interruptedSession.after leavingInputs).phase = .closed ∧
      (interruptedSession.after leavingInputs).Consistent ∧
      ((interruptedSession.after leavingInputs).phase = .closed → ∀ later input,
        ((interruptedSession.after leavingInputs).after later).step input =
          (interruptedSession.after leavingInputs, none)) := by
  have hcalm : interruptedSession.Calm leavingInputs :=
    ⟨by decide +kernel, by decide +kernel, by decide +kernel, by decide +kernel,
      by decide +kernel, by decide +kernel, trivial⟩
  have hclosed : (interruptedSession.after leavingInputs).phase = .closed := by decide +kernel
  exact ⟨fresh_interruptedSession, hcalm, hclosed,
    State.consistent_after fresh_interruptedSession hcalm⟩

end QueryShell.Session
