import QueryShell.Proofs.Session.Runs

namespace QueryShell.Session

open Connection (Client Line Request Service)
open Statement (CharacterNames Node)

theorem sent_send (line : Line) (identity : Connection.Identity) (request : Request) :
    (line.send identity request).2.sent = line.sent ++ [request] := by
  simp [Line.send, Line.sent, Line.requests]

theorem requests_eq_sent (line : Line) : line.requests = line.sent.reverse := by
  simp [Line.sent]

section

variable [Text.Codecs] (client : Client) (bindings : Query.Scope) (service : Service)

def requestOf (node : Node) : Except Failure Request := do
  let expression ← Query.evaluate bindings node
  (Query.toWire expression >>= client.request).mapError .fault

def Answered (before : List Request) (request : Request) : Prop :=
  ∃ result, client.readReply (service before.reverse request) = .ok result

def AllAnswered : List Request → List Request → Prop
  | _, [] => True
  | before, request :: requests =>
      Answered client service before request ∧ AllAnswered (before ++ [request]) requests

inductive Dispatched (before : List Request) : List Node → List Request → Prop where
  | whole {nodes : List Node} {requests : List Request}
      (hmade : nodes.map (requestOf client bindings) = requests.map .ok)
      (hall : AllAnswered client service before requests) :
      Dispatched before nodes requests
  | unsent {nodes : List Node} {requests : List Request} {node : Node} {failure : Failure}
      (hmade : nodes.map (requestOf client bindings) = requests.map .ok)
      (hall : AllAnswered client service before requests)
      (hnode : requestOf client bindings node = .error failure) (rest : List Node) :
      Dispatched before (nodes ++ node :: rest) requests
  | unanswered {nodes : List Node} {requests : List Request} {node : Node} {request : Request}
      (hmade : nodes.map (requestOf client bindings) = requests.map .ok)
      (hall : AllAnswered client service before requests)
      (hnode : requestOf client bindings node = .ok request)
      (hanswer : ¬ Answered client service (before ++ requests) request) (rest : List Node) :
      Dispatched before (nodes ++ node :: rest) (requests ++ [request])

inductive DispatchedAll : List Request → List Submission → List Request → Prop where
  | nil {before : List Request} : DispatchedAll before [] []
  | malformed {before requests : List Request} {e : ShellError} {xs : List Submission}
      (hrest : DispatchedAll before xs requests) :
      DispatchedAll before (.malformed e :: xs) requests
  | parsed {before requests later : List Request} {nodes : List Node} {xs : List Submission}
      (hnodes : Dispatched client bindings service before nodes requests)
      (hrest : DispatchedAll (before ++ requests) xs later) :
      DispatchedAll before (.parsed nodes :: xs) (requests ++ later)

end

section

variable [Text.Codecs] {client : Client} {bindings : Query.Scope} {service : Service}

theorem Dispatched.cons {before requests : List Request} {node : Node} {nodes : List Node}
    {request : Request} (hnode : requestOf client bindings node = .ok request)
    (hanswer : Answered client service before request)
    (h : Dispatched client bindings service (before ++ [request]) nodes requests) :
    Dispatched client bindings service before (node :: nodes) (request :: requests) := by
  have hcons {nodes : List Node} {requests : List Request}
      (hmade : nodes.map (requestOf client bindings) = requests.map .ok) :
      (node :: nodes).map (requestOf client bindings) = (request :: requests).map .ok := by
    rw [List.map_cons, List.map_cons, hnode, hmade]
  cases h with
  | whole hmade hall => exact .whole (hcons hmade) ⟨hanswer, hall⟩
  | unsent hmade hall hstuck rest =>
      have hmore := Dispatched.unsent (hcons hmade) ⟨hanswer, hall⟩ hstuck rest
      exact hmore
  | unanswered hmade hall hstuck hlast rest =>
      rw [List.append_assoc, List.singleton_append] at hlast
      have hmore := Dispatched.unanswered (hcons hmade) ⟨hanswer, hall⟩ hstuck hlast rest
      exact hmore

theorem runStatement_eq (client : Client) (bindings : Query.Scope) (line : Line) (node : Node) :
    runStatement client bindings line node =
      match requestOf client bindings node with
      | .error failure => (.error (.failed failure), line)
      | .ok request =>
          (client.readReply (line.service line.requests request),
            (line.send client.identity request).2) := by
  unfold runStatement requestOf
  cases Query.evaluate bindings node with
  | error failure => rfl
  | ok expression =>
      change client.query line expression =
        match (Query.toWire expression >>= client.request).mapError Failure.fault with
        | .error failure => _
        | .ok request => _
      unfold Client.query
      cases Query.toWire expression >>= client.request <;> rfl

theorem executeFrom_unsent {node : Node} {failure : Failure}
    (hnode : requestOf client bindings node = .error failure) (done : List Value) (line : Line)
    (nodes : List Node) :
    executeFrom client bindings done line (node :: nodes) =
      (.ok (.failure failure.toError done.reverse (some done.length)), line) := by
  simp only [executeFrom, runStatement_eq, hnode]

theorem executeFrom_sent {node : Node} {request : Request}
    (hnode : requestOf client bindings node = .ok request) (done : List Value) (line : Line)
    (nodes : List Node) :
    executeFrom client bindings done line (node :: nodes) =
      match client.readReply (line.service line.sent.reverse request) with
      | .ok result =>
          executeFrom client bindings (result :: done) (line.send client.identity request).2 nodes
      | .error (.failed failure) =>
          (.ok (.failure failure.toError done.reverse (some done.length)),
            (line.send client.identity request).2)
      | .error (.interrupted i) => (.error i, (line.send client.identity request).2) := by
  simp only [executeFrom, runStatement_eq, hnode, requests_eq_sent]
  cases client.readReply (line.service line.sent.reverse request) with
  | ok result => rfl
  | error stop => cases stop <;> rfl

theorem executeFrom_dispatched (client : Client) (bindings : Query.Scope) (done : List Value)
    (line : Line) (nodes : List Node) :
    (executeFrom client bindings done line nodes).2.service = line.service ∧
      ∃ requests,
        (executeFrom client bindings done line nodes).2.sent = line.sent ++ requests ∧
          Dispatched client bindings line.service line.sent nodes requests := by
  induction nodes generalizing done line with
  | nil => exact ⟨rfl, [], (List.append_nil _).symm, .whole rfl trivial⟩
  | cons node nodes ih =>
      have hmade : [].map (requestOf client bindings) = [].map .ok := rfl
      have hall : AllAnswered client line.service line.sent [] := trivial
      cases hnode : requestOf client bindings node with
      | error failure =>
          rw [executeFrom_unsent hnode]
          have hnone : Dispatched client bindings line.service line.sent ([] ++ node :: nodes) [] :=
            .unsent hmade hall hnode nodes
          exact ⟨rfl, [], (List.append_nil _).symm, hnone⟩
      | ok request =>
          rw [executeFrom_sent hnode]
          cases hreply : client.readReply (line.service line.sent.reverse request) with
          | ok result =>
              obtain ⟨hservice, requests, hsent, hdispatched⟩ :=
                ih (result :: done) (line.send client.identity request).2
              rw [sent_send] at hsent hdispatched
              refine ⟨hservice, request :: requests, ?_, hdispatched.cons hnode ⟨result, hreply⟩⟩
              rw [hsent, List.append_assoc, List.singleton_append]
          | error stop =>
              have hlost : ¬ Answered client line.service (line.sent ++ []) request := by
                rintro ⟨result, hresult⟩
                rw [List.append_nil, hreply] at hresult
                cases hresult
              have hlast : Dispatched client bindings line.service line.sent
                  ([] ++ node :: nodes) ([] ++ [request]) :=
                .unanswered hmade hall hnode hlost nodes
              cases stop <;>
                exact ⟨rfl, [request], sent_send line client.identity request, hlast⟩

theorem foldl_lineAfter_dispatched (client : Client) (bindings : Query.Scope)
    (xs : List Submission) (line : Line) :
    ∃ requests,
      (xs.foldl (Submission.lineAfter client bindings) line).sent = line.sent ++ requests ∧
        DispatchedAll client bindings line.service line.sent xs requests := by
  induction xs generalizing line with
  | nil => exact ⟨[], (List.append_nil _).symm, .nil⟩
  | cons x xs ih =>
      cases x with
      | malformed e =>
          obtain ⟨requests, hsent, hrest⟩ := ih line
          exact ⟨requests, hsent, .malformed hrest⟩
      | parsed nodes =>
          obtain ⟨hservice, requests, hsent, hnodes⟩ :=
            executeFrom_dispatched client bindings [] line nodes
          obtain ⟨later, hlater, hrest⟩ := ih (executeFrom client bindings [] line nodes).2
          rw [hsent] at hlater hrest
          rw [hservice] at hrest
          refine ⟨requests ++ later, ?_, .parsed hnodes hrest⟩
          rw [List.foldl_cons, ← List.append_assoc]
          exact hlater

namespace State

variable [CharacterNames] {s : State}

theorem sent_after (hrun : s.isRunning = true) (inputs : List Input) :
    ∃ requests,
      (s.after inputs).line.sent = s.line.sent ++ requests ∧
        DispatchedAll s.client s.bindings s.line.service s.line.sent
          (submissions s.buffer inputs) requests := by
  rw [(after_submissions hrun inputs).1]
  exact foldl_lineAfter_dispatched s.client s.bindings (submissions s.buffer inputs) s.line

end State

end

theorem sent_after_troubledInputs :
    interruptedSession.isRunning = true ∧
      ∃ requests,
        (interruptedSession.after troubledInputs).line.sent =
            interruptedSession.line.sent ++ requests ∧
          DispatchedAll interruptedSession.client interruptedSession.bindings
            interruptedSession.line.service interruptedSession.line.sent
            (submissions interruptedSession.buffer troubledInputs) requests := by
  have hrun : interruptedSession.isRunning = true := rfl
  exact ⟨hrun, State.sent_after hrun troubledInputs⟩

end QueryShell.Session
