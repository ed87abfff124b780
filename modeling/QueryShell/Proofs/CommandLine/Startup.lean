import QueryShell.CommandLine.Run
import QueryShell.Proofs.Config.Refusal
import QueryShell.Proofs.Render.Markup

namespace QueryShell.CommandLine

open Connection (Client Interrupt Line Options Reply Service Stop)
open Render (Console)
open Session (Ending Input State)
open Statement (CharacterNames)

def errorReport (shown : List Char) : String :=
  Console.linesText
    (Render.wrap .fold errorWidth (Render.withoutControls ("Error: ".toList ++ shown)))

theorem failureReport_eq {failure : Failure} {message : Str}
    (h : failureText failure = .ok message) :
    ∃ shown, Console.ShownMessage message.shown shown ∧
      failureReport failure = .ok (errorReport shown) := by
  obtain ⟨shown, hshown, htext⟩ := Console.markupText_error message.shown
  refine ⟨shown, hshown, ?_⟩
  simp only [failureReport, h, bind, Except.bind, Console.printMarkup, Console.markupLines,
    String.toList_ofList, htext, Console.ofWidth, Console.print?]
  change Except.ok ("" ++ errorReport shown) = _
  rw [String.empty_append]

theorem failureText_worded {failure : Failure} (h : failure.Worded) :
    ∃ message, failureText failure = .ok message := by
  cases failure with
  | fault fault => exact ⟨fault.message, rfl⟩
  | reported e =>
      obtain ⟨text, htext⟩ : e.Worded := h
      exact ⟨text, by rw [failureText, htext]⟩

theorem failureText_unworded {e : ShellError} (h : ¬ e.Worded) :
    ∃ fault, failureText (.reported e) = .error fault := by
  cases htext : failureText (.reported e) with
  | error fault => exact ⟨fault, rfl⟩
  | ok message =>
      rw [failureText] at htext
      split at htext
      · next s hmessage => exact absurd ⟨s, hmessage⟩ h
      · cases htext
      · cases htext

theorem failed_eq {failure : Failure} {message : Str} (h : failureText failure = .ok message)
    (output : String) :
    ∃ shown, Console.ShownMessage message.shown shown ∧
      failed output failure = .ok ⟨1, output, errorReport shown⟩ := by
  obtain ⟨shown, hshown, hreport⟩ := failureReport_eq h
  refine ⟨shown, hshown, ?_⟩
  rw [failed, hreport]
  rfl

theorem exitOf_ofFault (ending : Ending) {fault : Option Fault}
    (h : ending.raised = fault.map Session.Stop.ofFault) : ∃ exit, exitOf ending = .ok exit := by
  unfold exitOf
  rw [h]
  cases fault with
  | none => exact ⟨_, rfl⟩
  | some fault =>
      have hmessage : failureText (.fault fault) = .ok fault.message := rfl
      obtain ⟨shown, -, hfailed⟩ := failed_eq hmessage ending.console.output
      exact ⟨_, hfailed⟩

def Invocation.startup [Text.Codecs] (i : Invocation) (s : Surroundings) (width : Nat)
    (service : Service) :
    Except (String × Stop) State :=
  match i.options s with
  | .error failure => .error ("", .failed failure)
  | .ok options =>
      match Client.root options with
      | .error fault => .error ("", .failed (.fault fault))
      | .ok root =>
          match root.access (.idle service) (i.database.getD "") with
          | (.error stop, _) => .error ("", stop)
          | (.ok client, line) =>
              match Session.greet (.ofWidth width)
                  (Session.greetings client (i.database.getD "")) with
              | (console, some fault) => .error (console.output, .failed (.fault fault))
              | (console, none) =>
                  .ok (.start client Query.catalogueScope (i.database.getD "") console line)

def Invocation.checkReply? (i : Invocation) (s : Surroundings) (service : Service) :
    Option Reply := do
  let options ← (i.options s).toOption
  let root ← (Client.root options).toOption
  root.checkReply? service (i.database.getD "")

section

variable {i : Invocation} {s : Surroundings} {width : Nat} {service : Service}

theorem checkReply?_eq {options : Options} {root : Client} (hoptions : i.options s = .ok options)
    (hroot : Client.root options = .ok root) :
    i.checkReply? s service = root.checkReply? service (i.database.getD "") := by
  rw [Invocation.checkReply?, hoptions]
  change (Client.root options).toOption.bind _ = _
  rw [hroot]
  rfl

theorem options_worded (i : Invocation) (s : Surroundings) :
    FailsOnly Failure.Worded (i.options s) :=
  (Config.resolve_worded (i.sources s)).mapError fun _ h => h

theorem exists_root {reply : Reply} (h : i.checkReply? s service = some reply) :
    ∃ options root, i.options s = .ok options ∧ Client.root options = .ok root ∧
      root.checkReply? service (i.database.getD "") = some reply := by
  obtain ⟨options, hoptions, h⟩ := Option.bind_eq_some_iff.1 h
  obtain ⟨root, hroot, h⟩ := Option.bind_eq_some_iff.1 h
  exact ⟨options, root, ok_of_mem_toOption hoptions, ok_of_mem_toOption hroot, h⟩

variable [Text.Codecs]

inductive Starting (i : Invocation) (s : Surroundings) (width : Nat) (service : Service) :
    Except (String × Stop) State → Prop where
  | unresolved {failure : Failure} (hoptions : i.options s = .error failure) :
      Starting i s width service (.error ("", .failed failure))
  | rootless {options : Options} {fault : Fault} (hoptions : i.options s = .ok options)
      (hroot : Client.root options = .error fault) :
      Starting i s width service (.error ("", .failed (.fault fault)))
  | denied {options : Options} {root : Client} {stop : Stop} {line : Line}
      (hoptions : i.options s = .ok options) (hroot : Client.root options = .ok root)
      (haccess : root.access (.idle service) (i.database.getD "") = (.error stop, line)) :
      Starting i s width service (.error ("", stop))
  | ungreeted {options : Options} {root client : Client} {line : Line} {console : Console}
      {fault : Fault} (hoptions : i.options s = .ok options)
      (hroot : Client.root options = .ok root)
      (haccess : root.access (.idle service) (i.database.getD "") = (.ok client, line))
      (hgreet : Session.greet (.ofWidth width)
        (Session.greetings client (i.database.getD "")) = (console, some fault)) :
      Starting i s width service (.error (console.output, .failed (.fault fault)))
  | started {options : Options} {root client : Client} {line : Line} {console : Console}
      (hoptions : i.options s = .ok options) (hroot : Client.root options = .ok root)
      (haccess : root.access (.idle service) (i.database.getD "") = (.ok client, line))
      (hgreet : Session.greet (.ofWidth width)
        (Session.greetings client (i.database.getD "")) = (console, none)) :
      Starting i s width service
        (.ok (.start client Query.catalogueScope (i.database.getD "") console line))

theorem starting_startup (i : Invocation) (s : Surroundings) (width : Nat) (service : Service) :
    Starting i s width service (i.startup s width service) := by
  unfold Invocation.startup
  split
  · next failure hoptions => exact .unresolved hoptions
  · next options hoptions =>
      split
      · next fault hroot => exact .rootless hoptions hroot
      · next root hroot =>
          split
          · next stop line haccess => exact .denied hoptions hroot haccess
          · next client line haccess =>
              split
              · next console fault hgreet => exact .ungreeted hoptions hroot haccess hgreet
              · next console hgreet => exact .started hoptions hroot haccess hgreet

theorem startup_worded (h : ∀ reply, i.checkReply? s service = some reply → ¬ reply.Illegible)
    {output : String} {failure : Failure}
    (hfailed : i.startup s width service = .error (output, .failed failure)) :
    failure.Worded := by
  have hstart := starting_startup i s width service
  rw [hfailed] at hstart
  cases hstart with
  | unresolved hoptions => exact options_worded i s failure hoptions
  | rootless => exact Failure.worded_fault _
  | denied hoptions hroot haccess =>
      rw [checkReply?_eq hoptions hroot] at h
      exact Client.access_worded h (congrArg Prod.fst haccess)
  | ungreeted => exact Failure.worded_fault _

theorem startup_interrupted {output : String} {interrupt : Interrupt}
    (h : i.startup s width service = .error (output, .interrupted interrupt)) :
    i.checkReply? s service = some (.interrupted interrupt) := by
  have hstart := starting_startup i s width service
  rw [h] at hstart
  cases hstart with
  | denied hoptions hroot haccess =>
      rw [checkReply?_eq hoptions hroot]
      exact Client.access_interrupted (congrArg Prod.fst haccess)

theorem startup_illegible (width : Nat) {reply : Reply}
    (hreply : i.checkReply? s service = some reply) (h : reply.Illegible) :
    ∃ e, i.startup s width service = .error ("", .failed (.reported e)) ∧ ¬ e.Worded := by
  obtain ⟨options, root, hoptions, hroot, hcheck⟩ := exists_root hreply
  obtain ⟨e, haccess, -, hworded⟩ := Client.access_illegible hcheck h
  refine ⟨e, ?_, hworded⟩
  simp only [Invocation.startup, hoptions, hroot]
  generalize root.access (.idle service) (i.database.getD "") = accessed at haccess ⊢
  obtain ⟨found, line⟩ := accessed
  cases haccess
  rfl

def loopEnding [CharacterNames] (start : State) (inputs : List Input) : Ending :=
  let ((s, fault), prompts) := Session.readFrom [] start inputs
  ⟨fault.map Session.Stop.ofFault, s.console, prompts.reverse, s.line⟩

def Record.ofEnding (ending : Ending) (inputs : List Input) : Record :=
  ⟨exitOf ending, ending.line.sent, historyOf (inputsRead ending inputs)⟩

variable [CharacterNames] {inputs : List Input}

theorem run_started {start : State} (h : i.startup s width service = .ok start) :
    i.run s width service inputs = .ofEnding (loopEnding start inputs) inputs := by
  have hstart := starting_startup i s width service
  rw [h] at hstart
  cases hstart with
  | started hoptions hroot haccess hgreet =>
      simp only [Invocation.run, hoptions, runShell, hroot, Session.runShell, haccess,
        Session.converse, hgreet, Line.release_sent]
      rfl

theorem run_stopped {output : String} {failure : Failure}
    (h : i.startup s width service = .error (output, .failed failure)) :
    ∃ requests, i.run s width service inputs = ⟨failed output failure, requests, []⟩ := by
  have hstart := starting_startup i s width service
  rw [h] at hstart
  cases hstart with
  | unresolved hoptions => exact ⟨[], by simp only [Invocation.run, hoptions]⟩
  | rootless hoptions hroot => exact ⟨[], by simp only [Invocation.run, hoptions, runShell, hroot]⟩
  | @denied options root stop line hoptions hroot haccess =>
      refine ⟨(line.release none).sent, ?_⟩
      simp only [Invocation.run, hoptions, runShell, hroot, Session.runShell, haccess]
      rfl
  | @ungreeted options root client line console fault hoptions hroot haccess hgreet =>
      refine ⟨(line.release (some client)).sent, ?_⟩
      simp only [Invocation.run, hoptions, runShell, hroot, Session.runShell, haccess,
        Session.converse, hgreet]
      rfl

variable (i s width service inputs)

def Invocation.Launches : Prop :=
  ∃ start exit, i.startup s width service = .ok start ∧
    i.run s width service inputs = .ofEnding (loopEnding start inputs) inputs ∧
    (i.run s width service inputs).exit = .ok exit

def Invocation.Refuses : Prop :=
  ∃ output failure message shown requests,
    i.startup s width service = .error (output, .failed failure) ∧
    failureText failure = .ok message ∧ Console.ShownMessage message.shown shown ∧
    i.run s width service inputs = ⟨.ok ⟨1, output, errorReport shown⟩, requests, []⟩

variable {i s width service inputs}

theorem Invocation.launches_or_refuses_iff
    (hcalm : ∀ interrupt, i.checkReply? s service ≠ some (.interrupted interrupt)) :
    (i.Launches s width service inputs ∨ i.Refuses s width service inputs) ↔
      ∀ reply, i.checkReply? s service = some reply → ¬ reply.Illegible := by
  constructor
  · intro hended reply hreply hillegible
    obtain ⟨e, hstart, hworded⟩ := startup_illegible width hreply hillegible
    obtain ⟨fault, hfault⟩ := failureText_unworded hworded
    rcases hended with ⟨start, -, hstarted, -⟩ |
      ⟨output, failure, message, -, -, hstopped, htext, -⟩
    · rw [hstart] at hstarted
      cases hstarted
    · rw [hstart] at hstopped
      cases hstopped
      rw [hfault] at htext
      cases htext
  · intro hlegible
    cases hstart : i.startup s width service with
    | ok start =>
        have hrun : i.run s width service inputs = _ := run_started hstart
        obtain ⟨exit, hexit⟩ := exitOf_ofFault (loopEnding start inputs) rfl
        exact .inl ⟨start, exit, hstart, hrun, by rw [hrun]; exact hexit⟩
    | error stopped =>
        obtain ⟨output, stop⟩ := stopped
        cases stop with
        | interrupted interrupt => exact absurd (startup_interrupted hstart) (hcalm interrupt)
        | failed failure =>
            obtain ⟨message, hmessage⟩ := failureText_worded (startup_worded hlegible hstart)
            obtain ⟨shown, hshown, hfailed⟩ := failed_eq hmessage output
            obtain ⟨requests, hrun⟩ : ∃ requests, i.run s width service inputs =
                ⟨failed output failure, requests, []⟩ := run_stopped hstart
            rw [hfailed] at hrun
            exact .inr ⟨output, failure, message, shown, requests, hstart, hmessage, hshown, hrun⟩

end

def databaseShell : Invocation :=
  { verbose := false, database := some "db", secret := some "s", domain := none, scheme := none
    port := none, timeout := none, endpoint := none }

def bareSurroundings : Surroundings :=
  ⟨"/home", none, none, []⟩

theorem launches_or_refuses_databaseShell :
    (∀ interrupt, databaseShell.checkReply? bareSurroundings (Connection.scripted []) ≠
      some (.interrupted interrupt)) ∧
    (databaseShell.Launches bareSurroundings 80 (Connection.scripted []) [] ∨
      databaseShell.Refuses bareSurroundings 80 (Connection.scripted []) []) := by
  have hechoed : ∀ reply, databaseShell.checkReply? bareSurroundings (Connection.scripted []) =
      some reply → ∃ check, reply = Connection.echo check := by
    intro reply hreply
    obtain ⟨options, root, -, -, hcheck⟩ := exists_root hreply
    exact Client.exists_of_checkReply hcheck
  have hcalm : ∀ interrupt, databaseShell.checkReply? bareSurroundings (Connection.scripted []) ≠
      some (.interrupted interrupt) := by
    intro interrupt hreply
    obtain ⟨check, hcheck⟩ := hechoed _ hreply
    cases hcheck
  refine ⟨hcalm, (Invocation.launches_or_refuses_iff hcalm).2 fun reply hreply hillegible => ?_⟩
  obtain ⟨check, rfl⟩ := hechoed reply hreply
  cases hillegible with
  | intro contentType hstatus => exact absurd hstatus (by decide)

theorem run_numberedRejection :
    error? (databaseShell.run bareSurroundings 80
      (Connection.scripted [Connection.numberedRejection]) []).exit =
        some (.textExpected "int") := by
  decide +kernel

end QueryShell.CommandLine
