import QueryShell.Proofs.Session.Registry
import QueryShell.Proofs.Session.Runs

namespace QueryShell.Session

open Statement (CharacterNames isBlank read)

structure CommandLine (line name after : List Char) : Prop where
  written : Text.trim line = '.' :: (name ++ after)
  named : name ≠ []
  letters : ∀ c ∈ name, c.isAlpha = true ∨ c = '_'
  apart : ∀ c ∈ after.head?, Text.isBlank c = true

theorem isCommandChar_iff {c : Char} : isCommandChar c = true ↔ c.isAlpha = true ∨ c = '_' := by
  simp [isCommandChar]

theorem not_commandChar_of_blank {c : Char} (h : Text.isBlank c = true) :
    isCommandChar c = false := by
  rw [Bool.eq_false_iff]
  intro hc
  have hname : Statement.isNameStart c = true := by
    rcases isCommandChar_iff.1 hc with halpha | rfl
    · simp [Statement.isNameStart, halpha]
    · decide
  have htoken : Statement.token? [c] = some (.name [c]) := by
    simp [Statement.token?, hname]
  rw [(Statement.token?_start htoken).1] at h
  cases h

namespace CommandLine

variable {line name after : List Char}

theorem takeWhile_name (h : CommandLine line name after) :
    (name ++ after).takeWhile isCommandChar = name := by
  have hname : ∀ c ∈ name, isCommandChar c = true :=
    fun c hc => isCommandChar_iff.2 (h.letters c hc)
  rw [List.takeWhile_append_of_pos hname]
  cases after with
  | nil => simp
  | cons c after =>
      have hc : isCommandChar c = false := not_commandChar_of_blank (h.apart c rfl)
      simp [hc]

theorem length_trimLeft_lt (h : CommandLine line name after) (hne : after ≠ []) :
    (Text.trimLeft after).length < after.length := by
  cases after with
  | nil => exact absurd rfl hne
  | cons c after =>
      have hle := (List.dropWhile_suffix (l := after) Text.isBlank).length_le
      simp only [Text.trimLeft, List.dropWhile_cons, h.apart c rfl, if_true, List.length_cons]
      omega

theorem metaLine?_eq (h : CommandLine line name after) :
    metaLine? line =
      if '\n' ∈ Text.trimLeft after then none else some ⟨name, Text.trimLeft after⟩ := by
  have hname : name.isEmpty = false := by simpa using h.named
  simp only [metaLine?, h.written, h.takeWhile_name, List.drop_left, hname, Bool.false_eq_true,
    if_false]
  by_cases hafter : after = []
  · subst hafter
    rfl
  · have hlt := h.length_trimLeft_lt hafter
    have hsome : after.isEmpty = false := by simpa using hafter
    by_cases hbreak : '\n' ∈ Text.trimLeft after
    · simp [hsome, hbreak]
    · simp [hsome, hlt, hbreak]

theorem exists_point (h : CommandLine line name after) :
    ∃ w r, line = w ++ '.' :: r ∧ ∀ c ∈ w, Text.isBlank c = true :=
  Text.exists_of_trim h.written

theorem not_blank (h : CommandLine line name after) : isBlank line = false := by
  obtain ⟨w, r, rfl, hw⟩ := h.exists_point
  rw [Statement.isBlank_append_of_blank hw]
  exact Statement.isBlank_cons_of_not_blank (by decide) (by decide) r

end CommandLine

structure ActsAs (s : State) (m : MetaLine) (p : Progress) : Prop where
  line : p.1.line = s.line
  lastError : p.1.lastError = s.lastError
  buffer : p.1.buffer = if m = .bare "break" then [] else s.buffer
  closed : p.1.phase = .closed ↔ m = .bare "exit"
  setup : State.SameSetup s p.1
  unknown : String.ofList m.name ∉ shellCommands.names → p = (s.say "Invalid REPL keyword", none)
  given : String.ofList m.name ∈ shellCommands.names → m.argument ≠ [] →
    p = (s.say ("." ++ String.ofList m.name ++ " does not take arguments"), none)

namespace State

variable {s : State} {m : MetaLine}

theorem exists_command (h : String.ofList m.name ∈ shellCommands.names) :
    ∃ command, Registry.get? shellCommands (String.ofList m.name) = some command ∧
      command.name = String.ofList m.name := by
  obtain ⟨command, hget⟩ := Registry.mem_names_iff.1 h
  exact ⟨command, hget, (Registry.name_of_get? hget).2⟩

theorem no_command (h : String.ofList m.name ∉ shellCommands.names) :
    Registry.get? shellCommands (String.ofList m.name) = none := by
  rw [Option.eq_none_iff_forall_ne_some]
  intro command hget
  exact h (Registry.mem_names_iff.2 ⟨command, hget⟩)

theorem phase_abort (hrun : s.isRunning = true) : s.abort.phase ≠ .closed := by
  intro h
  have hclosed : s.abort.isRunning = false := by
    rw [isRunning, h]
    rfl
  have hopen : s.abort.isRunning = true := isRunning_turned (t := .dropped) hrun (by simp)
  rw [hclosed] at hopen
  cases hopen

theorem runCommand_acts (hrun : s.isRunning = true) (m : MetaLine) :
    ActsAs s m (s.runCommand m) := by
  have hphase : s.phase ≠ .closed := by
    intro h
    rw [isRunning, h] at hrun
    cases hrun
  obtain ⟨console, hturned⟩ := s.runCommand_turned m
  have hsetup := s.turned_setup (commandTurn m)
  constructor
  case line =>
    rw [hturned]
    rcases commandTurn_cases m with h | h | h <;> rw [h] <;> rfl
  case lastError =>
    rw [hturned]
    rcases commandTurn_cases m with h | h | h <;> rw [h] <;> rfl
  case buffer =>
    rw [hturned]
    unfold commandTurn
    split
    · rfl
    · split <;> rfl
  case closed =>
    rw [hturned]
    unfold commandTurn
    split
    · next h =>
      subst h
      exact iff_of_false (phase_abort hrun) (by decide)
    · split
      · next h => exact iff_of_true rfl h
      · next h => exact iff_of_false hphase h
  case setup =>
    rw [hturned]
    exact ⟨hsetup.client, hsetup.bindings, hsetup.database, hsetup.clearFault⟩
  case unknown =>
    intro h
    simp only [runCommand, no_command h]
  case given =>
    intro h hargument
    obtain ⟨command, hget, hname⟩ := exists_command h
    simp only [runCommand, hget, List.isEmpty_iff, hargument, if_false, hname]

variable [CharacterNames] [Text.Codecs] {line name after : List Char}

theorem handleLine_command (h : CommandLine line name after) (hrun : s.isRunning = true)
    (hplain : '\n' ∉ Text.trimLeft after) :
    s.handleLine line = s.runCommand ⟨name, Text.trimLeft after⟩ := by
  simp only [handleLine, hrun, h.metaLine?_eq, if_neg hplain, if_true]

theorem handleLine_broken (h : CommandLine line name after) (hrun : s.isRunning = true)
    (hbroken : '\n' ∈ Text.trimLeft after) : s.handleLine line = s.accept line :=
  handleLine_eq_accept hrun (by rw [h.metaLine?_eq, if_pos hbroken]) fun _ => h.not_blank

theorem not_acts_of_broken (h : CommandLine line name after) (hfresh : s.Fresh)
    (hbroken : '\n' ∈ Text.trimLeft after) :
    ¬ ActsAs s ⟨name, Text.trimLeft after⟩ (s.handleLine line) := by
  intro hacts
  rw [handleLine_broken h hfresh.isRunning hbroken] at hacts
  have hbuffer : (s.accept line).1.buffer = [] := by
    rw [hacts.buffer, hfresh.buffer, ite_self]
  have herror : (s.accept line).1.lastError = none := by
    rw [hacts.lastError, hfresh.lastError]
  obtain ⟨console, hturned⟩ := s.accept_turned line
  have hheld : joined (s.buffer ++ [line]) = line := by
    rw [hfresh.buffer]
    rfl
  rw [hturned, hheld] at hbuffer herror
  cases hread : read line with
  | incomplete =>
      rw [hread] at hbuffer
      simp [readingTurn, turned] at hbuffer
  | malformed e =>
      rw [hread] at herror
      simp [readingTurn, turned, Submission.error?] at herror
  | parsed nodes =>
      obtain ⟨w, r, rfl, hw⟩ := h.exists_point
      exact Statement.read_point_ne_parsed hw r nodes hread
  | escaped fault =>
      rw [hread] at hbuffer
      simp [readingTurn, turned] at hbuffer

theorem handleLine_acts_iff (h : CommandLine line name after) :
    ((∀ s : State, s.isRunning = true →
        ActsAs s ⟨name, Text.trimLeft after⟩ (s.handleLine line)) ↔
      '\n' ∉ Text.trimLeft after) ∧
    ∀ s : State, s.isRunning = true → '\n' ∈ Text.trimLeft after →
      s.handleLine line = s.accept line := by
  refine ⟨⟨fun hacts hbroken => ?_, fun hplain s hrun => ?_⟩, fun s hrun hbroken => ?_⟩
  · have hfresh := fresh_interruptedSession
    exact not_acts_of_broken h hfresh hbroken (hacts interruptedSession hfresh.isRunning)
  · rw [handleLine_command h hrun hplain]
    exact runCommand_acts hrun _
  · exact handleLine_broken h hrun hbroken

end State

theorem handleLine_acts_iff_exitNow :
    CommandLine [' ', '.', 'e', 'x', 'i', 't', '\n', 'n', 'o', 'w'] ['e', 'x', 'i', 't']
        ['\n', 'n', 'o', 'w'] ∧
      ActsAs interruptedSession ⟨['e', 'x', 'i', 't'], ['n', 'o', 'w']⟩
        (interruptedSession.handleLine [' ', '.', 'e', 'x', 'i', 't', '\n', 'n', 'o', 'w']) ∧
      interruptedSession.handleLine [' ', '.', 'e', 'x', 'i', 't', '\n', 'n', 'o', 'w'] =
        (interruptedSession.say ".exit does not take arguments", none) := by
  have hline : CommandLine [' ', '.', 'e', 'x', 'i', 't', '\n', 'n', 'o', 'w']
      ['e', 'x', 'i', 't'] ['\n', 'n', 'o', 'w'] :=
    ⟨by decide, by decide, by simp, fun c hc => by cases hc; decide⟩
  have hacts := (State.handleLine_acts_iff hline).1.2 (by decide) interruptedSession rfl
  exact ⟨hline, hacts, hacts.given (by decide) (by decide)⟩

/-- A line feed in its argument makes a command a statement, and a bad one. -/
theorem handleLine_brokenArgument :
    CommandLine ['.', 'e', 'x', 'i', 't', ' ', 'a', '\n', 'b'] ['e', 'x', 'i', 't']
        [' ', 'a', '\n', 'b'] ∧
      interruptedSession.isRunning = true ∧
      ¬ ActsAs interruptedSession ⟨['e', 'x', 'i', 't'], ['a', '\n', 'b']⟩
        (interruptedSession.handleLine ['.', 'e', 'x', 'i', 't', ' ', 'a', '\n', 'b']) := by
  have hline : CommandLine ['.', 'e', 'x', 'i', 't', ' ', 'a', '\n', 'b']
      ['e', 'x', 'i', 't'] [' ', 'a', '\n', 'b'] :=
    ⟨by decide, by decide, by simp, fun c hc => by cases hc; decide⟩
  exact ⟨hline, rfl, State.not_acts_of_broken hline fresh_interruptedSession (by decide)⟩

end QueryShell.Session
