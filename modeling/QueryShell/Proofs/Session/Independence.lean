import QueryShell.Proofs.Render.Printing
import QueryShell.Proofs.Session.Dispatch
import QueryShell.Proofs.Session.Invariant

namespace QueryShell.Session

open Connection (Client Line Request Service)
open Render (Console)
open Render.Console (AlikeSince)
open Statement (CharacterNames Node isBlank read)

def AnswerAlike (σ τ : Service) (a b sent : List Request) : Prop :=
  ∀ earlier request, a ++ earlier ++ [request] <+: sent →
    τ (b ++ earlier).reverse request = σ (a ++ earlier).reverse request

theorem AnswerAlike.refl (σ : Service) (a sent : List Request) : AnswerAlike σ σ a a sent :=
  fun _ _ _ => rfl

theorem AnswerAlike.of_prefix {σ τ : Service} {a b sent more : List Request}
    (h : AnswerAlike σ τ a b more) (hmore : sent <+: more) : AnswerAlike σ τ a b sent :=
  fun earlier request hsent => h earlier request (hsent.trans hmore)

def SentAlike (a b : List Request) (line other : Line) : Prop :=
  ∃ requests, line.sent = a ++ requests ∧ other.sent = b ++ requests

theorem SentAlike.start (line other : Line) : SentAlike line.sent other.sent line other :=
  ⟨[], (List.append_nil _).symm, (List.append_nil _).symm⟩

theorem SentAlike.send {a b : List Request} {line other : Line} (h : SentAlike a b line other)
    (identity : Connection.Identity) (request : Request) :
    SentAlike a b (line.send identity request).2 (other.send identity request).2 := by
  obtain ⟨requests, hline, hother⟩ := h
  refine ⟨requests ++ [request], ?_, ?_⟩
  · rw [sent_send, hline, List.append_assoc]
  · rw [sent_send, hother, List.append_assoc]

theorem SentAlike.drop_eq {a b : List Request} {line other line' other' : Line}
    (h : SentAlike a b line other) (h' : SentAlike a b line' other') :
    other'.sent.drop other.sent.length = line'.sent.drop line.sent.length := by
  obtain ⟨requests, hline, hother⟩ := h
  obtain ⟨requests', hline', hother'⟩ := h'
  simp only [hline, hother, hline', hother', List.length_append, List.drop_length_add_append]

structure Grown (line later : Line) : Prop where
  service : later.service = line.service
  sent : line.sent <+: later.sent

theorem Grown.refl (line : Line) : Grown line line :=
  ⟨rfl, List.prefix_rfl⟩

theorem Grown.trans {line later last : Line} (h : Grown line later) (h' : Grown later last) :
    Grown line last :=
  ⟨h'.service.trans h.service, h.sent.trans h'.sent⟩

theorem grown_executeFrom [Text.Codecs] (client : Client) (bindings : Query.Scope)
    (done : List Value) (line : Line) (nodes : List Node) :
    Grown line (executeFrom client bindings done line nodes).2 := by
  obtain ⟨hservice, requests, hsent, -⟩ := executeFrom_dispatched client bindings done line nodes
  exact ⟨hservice, hsent ▸ List.prefix_append _ _⟩

theorem sent_first [Text.Codecs] {client : Client} {bindings : Query.Scope} {node : Node}
    {request : Request} (hnode : requestOf client bindings node = .ok request)
    (done : List Value) (line : Line) (nodes : List Node) :
    line.sent ++ [request] <+: (executeFrom client bindings done line (node :: nodes)).2.sent := by
  rw [executeFrom_sent hnode, ← sent_send line client.identity]
  cases client.readReply (line.service line.sent.reverse request) with
  | ok result => exact (grown_executeFrom client bindings _ _ nodes).sent
  | error stop => cases stop <;> exact List.prefix_rfl

theorem executeFrom_alike [Text.Codecs] {client : Client} {bindings : Query.Scope}
    {a b : List Request} {line other : Line} (h : SentAlike a b line other)
    {done : List Value} {nodes : List Node} (hanswers : AnswerAlike line.service other.service a b
      (executeFrom client bindings done line nodes).2.sent) :
    (executeFrom client bindings done other nodes).1 =
        (executeFrom client bindings done line nodes).1 ∧
      SentAlike a b (executeFrom client bindings done line nodes).2
        (executeFrom client bindings done other nodes).2 := by
  induction nodes generalizing done line other with
  | nil => exact ⟨rfl, h⟩
  | cons node nodes ih =>
      cases hnode : requestOf client bindings node with
      | error failure =>
          rw [executeFrom_unsent hnode, executeFrom_unsent hnode]
          exact ⟨rfl, h⟩
      | ok request =>
          have hsent := h.send client.identity request
          have hreply : other.service other.sent.reverse request =
              line.service line.sent.reverse request := by
            have hfirst := sent_first hnode done line nodes
            obtain ⟨earlier, hline, hother⟩ := h
            rw [hline] at hfirst ⊢
            rw [hother]
            exact hanswers earlier request hfirst
          rw [executeFrom_sent hnode] at hanswers
          rw [executeFrom_sent hnode, executeFrom_sent hnode, hreply]
          cases hresult : client.readReply (line.service line.sent.reverse request) with
          | ok result =>
              rw [hresult] at hanswers
              exact ih hsent hanswers
          | error stop => cases stop <;> exact ⟨rfl, hsent⟩

namespace State

def InStep (c d : Console) (x y : Progress) : Prop :=
  y.2 = x.2 ∧ AlikeSince c d x.1.console y.1.console

section

variable {c d : Console} {s t : State}

theorem act_inStep (h : AlikeSince c d s.console t.console) (hclear : t.clearFault = s.clearFault)
    {action : Action} (hlast : action = .lastError → t.lastError = s.lastError) :
    InStep c d (s.act action) (t.act action) := by
  cases action with
  | abort => exact ⟨rfl, h⟩
  | exit => exact ⟨rfl, h⟩
  | help => exact ⟨rfl, h.showCommands shellCommands⟩
  | clear => exact ⟨hclear, h⟩
  | lastError =>
      unfold act
      rw [hlast rfl]
      exact h.showLastError s.lastError

theorem runCommand_inStep (h : AlikeSince c d s.console t.console)
    (hclear : t.clearFault = s.clearFault) {m : MetaLine}
    (hlast : m = .bare "last_error" → t.lastError = s.lastError) :
    InStep c d (s.runCommand m) (t.runCommand m) := by
  unfold runCommand
  cases hget : Registry.get? shellCommands (String.ofList m.name) with
  | none => exact ⟨rfl, h.showMessage _⟩
  | some command =>
      by_cases hargument : m.argument.isEmpty = true
      · simp only [hargument, if_true]
        have haction : command.action = .lastError → t.lastError = s.lastError := by
          intro heq
          have hname := (name_of_action command (List.mem_of_find?_eq_some hget)).2.2 heq
          exact hlast (hname ▸ eq_bare hget hargument)
        obtain ⟨hfault, hshown⟩ := act_inStep h hclear haction
        cases hs : s.act command.action with
        | mk next fault =>
            cases ht : t.act command.action with
            | mk next' fault' =>
                rw [hs, ht] at hfault hshown
                cases fault with
                | none =>
                    cases hfault
                    exact ⟨rfl, hshown⟩
                | some fault =>
                    cases hfault
                    exact hshown.showError _
      · simp only [hargument]
        exact ⟨rfl, h.showMessage _⟩

theorem report_inStep (h : AlikeSince c d s.console t.console) (outcome : Outcome) :
    InStep c d (s.report outcome) (t.report outcome) := by
  unfold report
  cases outcome.error with
  | none => exact ⟨rfl, h.showValue false outcome.value⟩
  | some e => exact h.showError e

theorem evaluate_inStep [Text.Codecs] (h : AlikeSince c d s.console t.console) {nodes : List Node}
    (hresult : (execute t.client t.bindings t.line nodes).1 =
      (execute s.client s.bindings s.line nodes).1) :
    InStep c d (s.evaluate nodes) (t.evaluate nodes) := by
  rw [evaluate_eq, evaluate_eq, hresult]
  refine report_inStep ?_ _
  exact h

structure Parallel (c d : Console) (a b : List Request) (s t : State) : Prop where
  setup : SameSetup s t
  phase : t.phase = s.phase
  buffer : t.buffer = s.buffer
  console : AlikeSince c d s.console t.console
  sent : SentAlike a b s.line t.line

theorem Parallel.refl (s : State) :
    Parallel s.console s.console s.line.sent s.line.sent s s where
  setup := ⟨rfl, rfl, rfl, rfl⟩
  phase := rfl
  buffer := rfl
  console := (Console.Alike.refl s.console).since
  sent := .start s.line s.line

variable {a b : List Request}

theorem Parallel.isRunning (h : Parallel c d a b s t) : t.isRunning = s.isRunning := by
  rw [State.isRunning, State.isRunning, h.phase]

theorem Parallel.prompt (h : Parallel c d a b s t) : t.prompt = s.prompt := by
  rw [State.prompt, State.prompt, h.buffer, h.setup.database]

theorem Parallel.execute [Text.Codecs] (h : Parallel c d a b s t) {nodes : List Node}
    (hanswers : AnswerAlike s.line.service t.line.service a b
      (Session.execute s.client s.bindings s.line nodes).2.sent) :
    (Session.execute t.client t.bindings t.line nodes).1 =
        (Session.execute s.client s.bindings s.line nodes).1 ∧
      SentAlike a b (Session.execute s.client s.bindings s.line nodes).2
        (Session.execute t.client t.bindings t.line nodes).2 := by
  rw [h.setup.client, h.setup.bindings]
  exact executeFrom_alike h.sent hanswers

theorem grown_turned [Text.Codecs] (s : State) (x : Turn) : Grown s.line (s.turned x).line := by
  cases x with
  | submitted x =>
      cases x with
      | malformed e => exact .refl s.line
      | parsed nodes => exact grown_executeFrom s.client s.bindings [] s.line nodes
  | _ => exact .refl s.line

theorem Parallel.turned_phase [Text.Codecs] (h : Parallel c d a b s t) (x : Turn) :
    (t.turned x).phase = (s.turned x).phase := by
  cases x <;> simp [turned, abort, close, h.phase]

theorem Parallel.turned_buffer [Text.Codecs] (h : Parallel c d a b s t) (x : Turn) :
    (t.turned x).buffer = (s.turned x).buffer := by
  cases x <;> simp [turned, abort, close, h.buffer]

theorem Parallel.turned_sent [Text.Codecs] (h : Parallel c d a b s t) {x : Turn}
    (hanswers : AnswerAlike s.line.service t.line.service a b (s.turned x).line.sent) :
    SentAlike a b (s.turned x).line (t.turned x).line := by
  cases x with
  | submitted x =>
      cases x with
      | malformed e => exact h.sent
      | parsed nodes => exact (h.execute hanswers).2
  | _ => exact h.sent

end

def AsksLastError : Input → Prop
  | .line line => metaLine? line = some (.bare "last_error")
  | .interrupt => False
  | .endOfInput => False

instance : DecidablePred AsksLastError
  | .line line => inferInstanceAs (Decidable (metaLine? line = some (.bare "last_error")))
  | .interrupt => inferInstanceAs (Decidable False)
  | .endOfInput => inferInstanceAs (Decidable False)

variable [CharacterNames] [Text.Codecs] {c d : Console} {a b : List Request} {s t : State}
  {input : Input}

theorem grown_step (s : State) (input : Input) : Grown s.line (s.step input).1.line := by
  obtain ⟨x, console, hstep⟩ := s.step_moves input
  rw [hstep]
  exact s.grown_turned x

theorem grown_after (s : State) (inputs : List Input) : Grown s.line (s.after inputs).line := by
  induction inputs generalizing s with
  | nil => exact .refl s.line
  | cons input inputs ih => exact (s.grown_step input).trans (ih (s.step input).1)

theorem Parallel.accept (h : Parallel c d a b s t) {line : List Char}
    (hanswers : AnswerAlike s.line.service t.line.service a b (s.accept line).1.line.sent) :
    InStep c d (s.accept line) (t.accept line) := by
  obtain ⟨console, haccept⟩ := s.accept_turned line
  rw [haccept] at hanswers
  unfold State.accept
  rw [h.buffer]
  cases hread : read (joined (s.buffer ++ [line])) with
  | incomplete => simp only [hread]; exact ⟨rfl, h.console⟩
  | malformed e => simp only [hread]; exact h.console.showError e
  | parsed nodes =>
      rw [hread] at hanswers
      simp only [hread]
      refine evaluate_inStep ?_ (h.execute hanswers).1
      exact h.console
  | escaped fault => simp only [hread]; exact ⟨rfl, h.console⟩

theorem Parallel.inStep (h : Parallel c d a b s t) (hrun : s.isRunning = true)
    (hlast : AsksLastError input → t.lastError = s.lastError)
    (hanswers : AnswerAlike s.line.service t.line.service a b (s.step input).1.line.sent) :
    InStep c d (s.step input) (t.step input) := by
  have hrun' : t.isRunning = true := h.isRunning.trans hrun
  cases input with
  | line line =>
      rw [step_line] at hanswers
      rw [step_line, step_line]
      unfold handleLine at hanswers ⊢
      simp only [hrun, hrun', h.buffer, if_true] at hanswers ⊢
      cases hmeta : metaLine? line with
      | some m =>
          have hm : m = .bare "last_error" → t.lastError = s.lastError :=
            fun heq => hlast (hmeta.trans (congrArg some heq))
          exact runCommand_inStep h.console h.setup.clearFault hm
      | none =>
          cases hskip : s.buffer.isEmpty && isBlank line with
          | true =>
              simp only [if_true]
              exact ⟨rfl, h.console⟩
          | false =>
              simp only [hmeta, hskip] at hanswers
              exact h.accept hanswers
  | interrupt =>
      simp only [step, hrun, hrun', h.buffer, if_true]
      cases s.buffer.isEmpty with
      | true => exact ⟨rfl, h.console.showMessage exitHint⟩
      | false => exact ⟨rfl, h.console⟩
  | endOfInput =>
      simp only [step, hrun, hrun', if_true]
      exact ⟨rfl, h.console⟩

theorem Parallel.step (h : Parallel c d a b s t)
    (hlast : AsksLastError input → t.lastError = s.lastError)
    (hanswers : AnswerAlike s.line.service t.line.service a b (s.step input).1.line.sent) :
    (t.step input).2 = (s.step input).2 ∧
      Parallel c d a b (s.step input).1 (t.step input).1 := by
  cases hrun : s.isRunning with
  | false =>
      rw [step_closed (phase_of_not_running hrun),
        step_closed (phase_of_not_running (h.isRunning.trans hrun))]
      exact ⟨rfl, h⟩
  | true =>
      obtain ⟨hfault, hconsole⟩ := h.inStep hrun hlast hanswers
      obtain ⟨console, hs⟩ := step_turned hrun input
      obtain ⟨console', ht⟩ := step_turned (h.isRunning.trans hrun) input
      rw [h.buffer] at ht
      rw [hs] at hanswers
      refine ⟨hfault, ?_, ?_, ?_, hconsole, ?_⟩
      · exact (s.step_setup input).symm.trans (h.setup.trans (t.step_setup input))
      · rw [hs, ht]
        exact h.turned_phase _
      · rw [hs, ht]
        exact h.turned_buffer _
      · rw [hs, ht]
        exact h.turned_sent hanswers

theorem step_console (s : State) (input : Input) :
    ∃ calls text, (s.step input).1.console = s.console.later calls text := by
  have hself : AnswerAlike s.line.service s.line.service s.line.sent s.line.sent
      (s.step input).1.line.sent := .refl _ _ _
  obtain ⟨-, hnext⟩ := (Parallel.refl s).step (fun _ => rfl) hself
  obtain ⟨calls, text, hconsole, -⟩ := hnext.console.later
  exact ⟨calls, text, hconsole⟩

theorem after_console (s : State) (inputs : List Input) :
    ∃ calls text, (s.after inputs).console = s.console.later calls text := by
  induction inputs generalizing s with
  | nil => exact ⟨0, "", s.console.later_zero.symm⟩
  | cons input inputs ih =>
      obtain ⟨calls, text, hstep⟩ := s.step_console input
      obtain ⟨more, rest, hafter⟩ := ih (s.step input).1
      refine ⟨calls + more, text ++ rest, ?_⟩
      rw [after, hafter, hstep, Console.later_later]

structure Seen where
  prompt : Option String
  printed : List Char
  requests : List Request
  phase : Phase
  fault : Option Fault

def seen (s : State) (input : Input) : Seen where
  prompt := if s.isRunning then some s.prompt else none
  printed := (s.step input).1.console.output.toList.drop s.console.output.toList.length
  requests := (s.step input).1.line.sent.drop s.line.sent.length
  phase := (s.step input).1.phase
  fault := (s.step input).2

def transcript (s : State) : List Input → List Seen
  | [] => []
  | input :: inputs => s.seen input :: (s.step input).1.transcript inputs

theorem Parallel.seen_eq (h : Parallel c d a b s t)
    (hlast : AsksLastError input → t.lastError = s.lastError)
    (hanswers : AnswerAlike s.line.service t.line.service a b (s.step input).1.line.sent) :
    t.seen input = s.seen input := by
  obtain ⟨hfault, hnext⟩ := h.step hlast hanswers
  unfold seen
  rw [h.isRunning, h.prompt, h.console.drop_eq hnext.console, h.sent.drop_eq hnext.sent,
    hnext.phase, hfault]

theorem Parallel.transcript_eq (h : Parallel c d a b s t) {inputs : List Input}
    (hinputs : ∀ input ∈ inputs, ¬ AsksLastError input)
    (hanswers : AnswerAlike s.line.service t.line.service a b (s.after inputs).line.sent) :
    t.transcript inputs = s.transcript inputs := by
  induction inputs generalizing s t with
  | nil => rfl
  | cons input inputs ih =>
      have hlast : AsksLastError input → t.lastError = s.lastError :=
        fun hasks => absurd hasks (hinputs input (by simp))
      have hfirst : AnswerAlike s.line.service t.line.service a b (s.step input).1.line.sent :=
        hanswers.of_prefix ((s.step input).1.grown_after inputs).sent
      obtain ⟨-, hnext⟩ := h.step hlast hfirst
      rw [← (s.grown_step input).service, ← (t.grown_step input).service] at hanswers
      have hrest := ih hnext (fun later hlater => hinputs later (by simp [hlater])) hanswers
      rw [transcript, transcript, h.seen_eq hlast hfirst, hrest]

theorem transcript_eq_fresh {start fresh : State} {history inputs : List Input}
    (hstart : start.Fresh) (hrun : (start.after history).isRunning = true)
    (hbuffer : (start.after history).buffer = []) (hfresh : fresh.Fresh)
    (hsetup : SameSetup start fresh) (hconsole : (start.after history).console.Alike fresh.console)
    (hinputs : ∀ input ∈ inputs, ¬ AsksLastError input)
    (hanswers : AnswerAlike (start.after history).line.service fresh.line.service
      (start.after history).line.sent fresh.line.sent
      ((start.after history).after inputs).line.sent) :
    fresh.transcript inputs = (start.after history).transcript inputs := by
  have hphase : (start.after history).phase = .idle :=
    (hstart.resting.after history).phase_of_empty hrun hbuffer
  have hparallel : Parallel (start.after history).console fresh.console
      (start.after history).line.sent fresh.line.sent (start.after history) fresh := {
    setup := (start.after_setup history).symm.trans hsetup
    phase := hfresh.phase.trans hphase.symm
    buffer := hfresh.buffer.trans hbuffer.symm
    console := hconsole.since
    sent := .start _ _ }
  exact hparallel.transcript_eq hinputs hanswers

end State

theorem scripted_eq_echo (replies : List Connection.Reply) (before : List Request)
    (request : Request) (h : replies.length ≤ before.length) :
    Connection.scripted replies before request = Connection.echo request := by
  rw [Connection.scripted, List.getElem?_eq_none h]
  rfl

def answeredSession : State :=
  .start localClient Query.catalogueScope "" (.ofWidth 80) (.idle (Connection.scripted []))

def laterInputs : List Input :=
  [.line "Now()".toList, .line "Get(".toList, .line ".help".toList, .interrupt,
    .line "1; Now()".toList]

theorem transcript_eq_fresh_troubledInputs :
    interruptedSession.Fresh ∧
      (interruptedSession.after troubledInputs).isRunning = true ∧
      (interruptedSession.after troubledInputs).buffer = [] ∧
      (interruptedSession.after troubledInputs).lastError.isSome = true ∧
      (interruptedSession.after troubledInputs).line.sent.length = 1 ∧
      answeredSession.transcript laterInputs =
        (interruptedSession.after troubledInputs).transcript laterInputs := by
  have hfresh : answeredSession.Fresh := State.fresh_start _ _ _ _ _
  have hrun : (interruptedSession.after troubledInputs).isRunning = true := by decide +kernel
  have hbuffer : (interruptedSession.after troubledInputs).buffer = [] := by decide +kernel
  have herror : (interruptedSession.after troubledInputs).lastError.isSome = true := by
    decide +kernel
  have hsent : (interruptedSession.after troubledInputs).line.sent.length = 1 := by
    decide +kernel
  have hconsole :
      (interruptedSession.after troubledInputs).console.Alike answeredSession.console := by
    obtain ⟨calls, text, hconsole⟩ := interruptedSession.after_console troubledInputs
    rw [hconsole]
    exact ⟨rfl, fun _ => rfl⟩
  have hquiet : ∀ input ∈ laterInputs, ¬ State.AsksLastError input := by decide
  refine ⟨fresh_interruptedSession, hrun, hbuffer, herror, hsent,
    State.transcript_eq_fresh fresh_interruptedSession hrun hbuffer hfresh ⟨rfl, rfl, rfl, rfl⟩
      hconsole hquiet ?_⟩
  intro earlier request _
  have hpast :
      1 ≤ ((interruptedSession.after troubledInputs).line.sent ++ earlier).reverse.length := by
    rw [List.length_reverse, List.length_append, hsent]
    exact Nat.le_add_right 1 earlier.length
  have htroubled : interruptedSession.line.service =
      Connection.scripted [.interrupted ⟨"KeyboardInterrupt", ""⟩] := rfl
  have hanswered : answeredSession.line.service = Connection.scripted [] := rfl
  rw [(interruptedSession.grown_after troubledInputs).service, htroubled, hanswered,
    scripted_eq_echo [] _ request (Nat.zero_le _), scripted_eq_echo]
  exact hpast

end QueryShell.Session
