import QueryShell.Proofs.Session.Buffering
import QueryShell.Session.Shell

namespace QueryShell.Session

open Connection (Client Line)
open Statement (CharacterNames Node isBlank read)

inductive Submission where
  | malformed (e : ShellError)
  | parsed (nodes : List Node)

inductive Turn where
  | kept
  | dropped
  | continued (line : List Char)
  | submitted (submission : Submission)
  | escaped (line : List Char)
  | closed

def MetaLine.bare (name : String) : MetaLine :=
  ⟨name.toList, []⟩

def commandTurn (m : MetaLine) : Turn :=
  if m = .bare "break" then .dropped
  else if m = .bare "exit" then .closed
  else .kept

theorem commandTurn_cases (m : MetaLine) :
    commandTurn m = .kept ∨ commandTurn m = .dropped ∨ commandTurn m = .closed := by
  unfold commandTurn
  split
  · exact .inr (.inl rfl)
  · split
    · exact .inr (.inr rfl)
    · exact .inl rfl

def readingTurn (line : List Char) : Statement.Reading → Turn
  | .incomplete => .continued line
  | .malformed e => .submitted (.malformed e)
  | .parsed nodes => .submitted (.parsed nodes)
  | .escaped _ => .escaped line

structure IsRead (held : List (List Char)) (line : List Char) : Prop where
  noCommand : metaLine? line = none
  notSkipped : (held.isEmpty && isBlank line) = false

theorem IsRead.not_blank {line : List Char} (h : IsRead [] line) : isBlank line = false := by
  simpa using h.notSkipped

namespace Submission

variable [Text.Codecs] (client : Client) (bindings : Query.Scope) (line : Line)

def error? : Submission → Option ShellError
  | .malformed e => some e
  | .parsed nodes =>
      match (execute client bindings line nodes).1 with
      | .ok outcome => outcome.error
      | .error _ => some (.transport "Query interrupted")

def lineAfter : Submission → Line
  | .malformed _ => line
  | .parsed nodes => (execute client bindings line nodes).2

end Submission

def failures [Text.Codecs] (client : Client) (bindings : Query.Scope) :
    Line → List Submission → List ShellError
  | _, [] => []
  | line, x :: xs =>
      (x.error? client bindings line).toList ++
        failures client bindings (x.lineAfter client bindings line) xs

theorem settle_error (result : Except Connection.Interrupt Outcome) :
    (State.settle result).error =
      match result with
      | .ok outcome => outcome.error
      | .error _ => some (.transport "Query interrupted") := by
  cases result <;> rfl

namespace State

structure Fresh (s : State) : Prop where
  phase : s.phase = .idle
  buffer : s.buffer = []
  lastError : s.lastError = none

theorem fresh_start (client : Client) (bindings : Query.Scope) (database : String)
    (console : Render.Console) (line : Line) :
    (State.start client bindings database console line).Fresh :=
  ⟨rfl, rfl, rfl⟩

theorem Fresh.isRunning {s : State} (h : s.Fresh) : s.isRunning = true := by
  rw [State.isRunning, h.phase]
  rfl

theorem phase_of_not_running {s : State} (h : s.isRunning = false) : s.phase = .closed := by
  simpa [isRunning] using h

def turned [Text.Codecs] (s : State) : Turn → State
  | .kept => s
  | .dropped => s.abort
  | .continued line => { s with buffer := s.buffer ++ [line], phase := .accumulating }
  | .submitted x =>
      { s with
        buffer := []
        phase := .idle
        line := x.lineAfter s.client s.bindings s.line
        lastError := (x.error? s.client s.bindings s.line).or s.lastError }
  | .escaped line => { s with buffer := s.buffer ++ [line] }
  | .closed => s.close

structure SameSetup (s t : State) : Prop where
  client : t.client = s.client
  bindings : t.bindings = s.bindings
  database : t.database = s.database
  clearFault : t.clearFault = s.clearFault

theorem SameSetup.symm {s t : State} (h : SameSetup s t) : SameSetup t s where
  client := h.client.symm
  bindings := h.bindings.symm
  database := h.database.symm
  clearFault := h.clearFault.symm

theorem SameSetup.trans {s t u : State} (h : SameSetup s t) (h' : SameSetup t u) :
    SameSetup s u where
  client := h'.client.trans h.client
  bindings := h'.bindings.trans h.bindings
  database := h'.database.trans h.database
  clearFault := h'.clearFault.trans h.clearFault

theorem turned_setup [Text.Codecs] (s : State) (t : Turn) : SameSetup s (s.turned t) := by
  cases t <;> exact ⟨rfl, rfl, rfl, rfl⟩

theorem isRunning_turned [Text.Codecs] {s : State} (hrun : s.isRunning = true) {t : Turn}
    (ht : t ≠ .closed) :
    (s.turned t).isRunning = true := by
  cases t with
  | kept => exact hrun
  | dropped =>
      simp only [turned, abort, isRunning]
      split
      · rfl
      · exact hrun
  | continued line => rfl
  | submitted x => rfl
  | escaped line => exact hrun
  | closed => exact absurd rfl ht

theorem act_kept (s : State) {action : Action} (habort : action ≠ .abort) (hexit : action ≠ .exit) :
    ∃ console, (s.act action).1 = { s with console := console } := by
  cases action with
  | abort => exact absurd rfl habort
  | exit => exact absurd rfl hexit
  | help => exact ⟨_, rfl⟩
  | clear => exact ⟨s.console, rfl⟩
  | lastError => exact ⟨_, rfl⟩

theorem name_of_action :
    ∀ command ∈ shellCommands,
      (command.action = .abort → command.name = "break") ∧
        (command.action = .exit → command.name = "exit") ∧
        (command.action = .lastError → command.name = "last_error") := by
  decide

theorem eq_bare {m : MetaLine} {command : Command Action}
    (hget : Registry.get? shellCommands (String.ofList m.name) = some command)
    (hargument : m.argument.isEmpty = true) : m = .bare command.name := by
  have hname : command.name = String.ofList m.name := by
    simpa using List.find?_some hget
  obtain ⟨name, argument⟩ := m
  simp only [List.isEmpty_iff] at hargument
  rw [MetaLine.bare, hname, String.toList_ofList, hargument]

theorem runCommand_kept (s : State) {m : MetaLine} (hbreak : m ≠ .bare "break")
    (hexit : m ≠ .bare "exit") :
    ∃ console, (s.runCommand m).1 = { s with console := console } := by
  unfold runCommand
  cases hget : Registry.get? shellCommands (String.ofList m.name) with
  | none => exact ⟨_, rfl⟩
  | some command =>
      by_cases hargument : m.argument.isEmpty = true
      · have hbare := eq_bare hget hargument
        obtain ⟨habort, hclose, -⟩ := name_of_action command (List.mem_of_find?_eq_some hget)
        obtain ⟨console, hact⟩ := s.act_kept
          (fun h => hbreak (by rw [hbare, habort h])) (fun h => hexit (by rw [hbare, hclose h]))
        simp only [hargument, if_true]
        cases hdone : s.act command.action with
        | mk next fault =>
            rw [hdone] at hact
            simp only at hact
            cases fault with
            | none => exact ⟨console, hact⟩
            | some fault =>
                rw [hact]
                exact ⟨_, rfl⟩
      · simp only [hargument]
        exact ⟨_, rfl⟩

theorem runCommand_turned [Text.Codecs] (s : State) (m : MetaLine) :
    ∃ console, (s.runCommand m).1 = { s.turned (commandTurn m) with console := console } := by
  unfold commandTurn
  split
  · next h =>
      subst h
      exact ⟨s.console, rfl⟩
  · next hbreak =>
      split
      · next h =>
          subst h
          exact ⟨s.console, rfl⟩
      · next hexit => exact s.runCommand_kept hbreak hexit

theorem evaluate_eq [Text.Codecs] (s : State) (nodes : List Node) :
    s.evaluate nodes =
      { s with phase := .idle, line := (execute s.client s.bindings s.line nodes).2 }.report
        (settle (execute s.client s.bindings s.line nodes).1) :=
  rfl

theorem evaluate_turned [Text.Codecs] (s : State) (nodes : List Node) :
    ∃ console, (s.evaluate nodes).1 =
      { s with
        phase := .idle
        line := (execute s.client s.bindings s.line nodes).2
        lastError := ((Submission.parsed nodes).error? s.client s.bindings s.line).or s.lastError
        console := console } := by
  simp only [evaluate_eq, Submission.error?, ← settle_error]
  unfold report
  split
  · next e he =>
      rw [he]
      exact ⟨_, rfl⟩
  · next he =>
      rw [he]
      exact ⟨_, rfl⟩

end State

section

variable [CharacterNames]

def turn (held : List (List Char)) : Input → Turn
  | .line line =>
      match metaLine? line with
      | some m => commandTurn m
      | none =>
          if held.isEmpty && isBlank line then .kept
          else readingTurn line (read (joined (held ++ [line])))
  | .interrupt => if held.isEmpty then .kept else .dropped
  | .endOfInput => .closed

theorem IsRead.turn_eq {held : List (List Char)} {line : List Char} (h : IsRead held line) :
    turn held (.line line) = readingTurn line (read (joined (held ++ [line]))) := by
  simp [turn, h.noCommand, h.notSkipped]

theorem turn_cases (held : List (List Char)) (input : Input) :
    (turn held input = .kept ∨ turn held input = .dropped ∨ turn held input = .closed) ∨
      ∃ line, input = .line line ∧ IsRead held line := by
  cases input with
  | interrupt =>
      cases hempty : held.isEmpty with
      | true => exact .inl (.inl (by simp [turn, hempty]))
      | false => exact .inl (.inr (.inl (by simp [turn, hempty])))
  | endOfInput => exact .inl (.inr (.inr rfl))
  | line line =>
      cases hmeta : metaLine? line with
      | some m =>
          simp only [turn, hmeta]
          exact .inl (commandTurn_cases m)
      | none =>
          cases hskip : held.isEmpty && isBlank line with
          | true => exact .inl (.inl (by simp [turn, hmeta, hskip]))
          | false => exact .inr ⟨line, rfl, hmeta, hskip⟩

def submissions (held : List (List Char)) : List Input → List Submission
  | [] => []
  | input :: inputs =>
      match turn held input with
      | .kept => submissions held inputs
      | .dropped => submissions [] inputs
      | .continued line => submissions (held ++ [line]) inputs
      | .submitted x => x :: submissions [] inputs
      | .escaped line => submissions (held ++ [line]) inputs
      | .closed => []

namespace State

variable [Text.Codecs]

def after (s : State) : List Input → State
  | [] => s
  | input :: inputs => (s.step input).1.after inputs

def Calm (s : State) : List Input → Prop
  | [] => True
  | input :: inputs => (s.step input).2 = none ∧ (s.step input).1.Calm inputs

variable {s : State} {input : Input}

theorem step_line (s : State) (line : List Char) : s.step (.line line) = s.handleLine line := by
  unfold step handleLine
  split <;> rfl

theorem step_closed (h : s.phase = .closed) (input : Input) : s.step input = (s, none) := by
  have hrun : s.isRunning = false := by rw [isRunning, h]; rfl
  simp [step, hrun]

theorem accept_turned (s : State) (line : List Char) :
    ∃ console, (s.accept line).1 =
      { s.turned (readingTurn line (read (joined (s.buffer ++ [line])))) with
        console := console } := by
  unfold accept
  cases hread : read (joined (s.buffer ++ [line])) with
  | incomplete => exact ⟨s.console, by simp only [hread]; rfl⟩
  | malformed e => simp only [hread]; exact ⟨_, rfl⟩
  | parsed nodes => simp only [hread]; exact evaluate_turned _ nodes
  | escaped fault => exact ⟨s.console, by simp only [hread]; rfl⟩

theorem step_accept (hrun : s.isRunning = true) {line : List Char} (h : IsRead s.buffer line) :
    s.step (.line line) = s.accept line := by
  simp [step_line, handleLine, hrun, h.noCommand, h.notSkipped]

theorem step_turned (hrun : s.isRunning = true) (input : Input) :
    ∃ console, (s.step input).1 =
      { s.turned (turn s.buffer input) with console := console } := by
  cases input with
  | line line =>
      cases hmeta : metaLine? line with
      | some m =>
          simp only [step_line, handleLine, turn, hrun, hmeta, if_true]
          exact s.runCommand_turned m
      | none =>
          cases hskip : s.buffer.isEmpty && isBlank line with
          | true =>
              refine ⟨s.console, ?_⟩
              simp [step_line, handleLine, turn, turned, hrun, hmeta, hskip]
          | false =>
              have hline : IsRead s.buffer line := ⟨hmeta, hskip⟩
              rw [step_accept hrun hline, hline.turn_eq]
              exact s.accept_turned line
  | interrupt =>
      cases hempty : s.buffer.isEmpty with
      | true =>
          simp only [step, turn, hrun, hempty, if_true]
          exact ⟨_, rfl⟩
      | false => exact ⟨s.console, by simp [step, turn, turned, abort, hrun, hempty]⟩
  | endOfInput => exact ⟨s.console, by simp [step, turn, turned, close, hrun]⟩

theorem step_moves (s : State) (input : Input) :
    ∃ t console, (s.step input).1 = { s.turned t with console := console } := by
  cases hrun : s.isRunning with
  | false =>
      refine ⟨.kept, s.console, ?_⟩
      rw [step_closed (phase_of_not_running hrun)]
      rfl
  | true =>
      obtain ⟨console, hstep⟩ := step_turned hrun input
      exact ⟨turn s.buffer input, console, hstep⟩

theorem step_setup (s : State) (input : Input) : SameSetup s (s.step input).1 := by
  obtain ⟨t, console, hstep⟩ := s.step_moves input
  have hturned := s.turned_setup t
  rw [hstep]
  exact ⟨hturned.client, hturned.bindings, hturned.database, hturned.clearFault⟩

theorem after_setup (s : State) (inputs : List Input) : SameSetup s (s.after inputs) := by
  induction inputs generalizing s with
  | nil => exact ⟨rfl, rfl, rfl, rfl⟩
  | cons input inputs ih => exact (s.step_setup input).trans (ih (s.step input).1)

theorem after_closed (h : s.phase = .closed) (inputs : List Input) : s.after inputs = s := by
  induction inputs with
  | nil => rfl
  | cons input inputs ih => rw [after, step_closed h, ih]

theorem after_submissions (hrun : s.isRunning = true) (inputs : List Input) :
    (s.after inputs).line =
        (submissions s.buffer inputs).foldl (Submission.lineAfter s.client s.bindings) s.line ∧
      (s.after inputs).lastError =
        (failures s.client s.bindings s.line (submissions s.buffer inputs)).getLast?.or
          s.lastError := by
  induction inputs generalizing s with
  | nil => exact ⟨rfl, rfl⟩
  | cons input inputs ih =>
      obtain ⟨console, hstep⟩ := step_turned hrun input
      have hnext := ih (s := { s.turned (turn s.buffer input) with console := console })
      simp only [after, submissions]
      rw [hstep]
      generalize turn s.buffer input = t at hnext ⊢
      cases t with
      | kept => exact hnext hrun
      | dropped => exact hnext (isRunning_turned (t := .dropped) hrun (by simp))
      | continued line => exact hnext rfl
      | submitted x =>
          obtain ⟨hline, herror⟩ := hnext rfl
          refine ⟨hline, herror.trans ?_⟩
          simp only [turned, failures, List.getLast?_append, Option.or_assoc]
          cases x.error? s.client s.bindings s.line <;> rfl
      | escaped line => exact hnext hrun
      | closed =>
          rw [after_closed rfl]
          exact ⟨rfl, rfl⟩

theorem readFrom_after (prompts : List String) (s : State) (inputs : List Input) :
    ∃ taken, taken <+: inputs ++ [.endOfInput] ∧
      (readFrom prompts s inputs).1.1 = s.after taken ∧
      ((readFrom prompts s inputs).1.2 = none → s.Calm taken) := by
  induction inputs generalizing prompts s with
  | nil =>
      cases hrun : s.isRunning with
      | true =>
          refine ⟨[.endOfInput], List.prefix_rfl, ?_, ?_⟩ <;>
            simp [readFrom, after, Calm, step, hrun]
      | false => exact ⟨[], List.nil_prefix, by simp [readFrom, hrun, after], fun _ => trivial⟩
  | cons input inputs ih =>
      cases hrun : s.isRunning with
      | false => exact ⟨[], List.nil_prefix, by simp [readFrom, hrun, after], fun _ => trivial⟩
      | true =>
          cases hstep : s.step input with
          | mk next fault =>
              cases fault with
              | some fault =>
                  refine ⟨[input], List.prefix_append _ _, ?_, ?_⟩ <;>
                    simp [readFrom, hrun, hstep, after]
              | none =>
                  obtain ⟨taken, htaken, hafter, hcalm⟩ := ih (s.prompt :: prompts) next
                  refine ⟨input :: taken, ?_, ?_, ?_⟩
                  · simpa using htaken
                  · simpa [readFrom, hrun, hstep, after] using hafter
                  · simpa [readFrom, hrun, hstep, Calm] using hcalm

end State

end

def interruptedSession : State :=
  .start localClient Query.catalogueScope "" (.ofWidth 80)
    (.idle (Connection.scripted [.interrupted ⟨"KeyboardInterrupt", ""⟩]))

theorem fresh_interruptedSession : interruptedSession.Fresh :=
  State.fresh_start _ _ _ _ _

def troubledInputs : List Input :=
  [.line ['N', 'o', 'w', '(', ')', ';', 'N', 'o', 'w', '(', ')'], .line ['G', 'e', 't', '('],
    .interrupt, .line ['G', 'o']]

end QueryShell.Session
