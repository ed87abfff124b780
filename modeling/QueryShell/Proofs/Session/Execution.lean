import QueryShell.Proofs.Connection.Rejection
import QueryShell.Proofs.Session.Buffering

namespace QueryShell.Session

open Connection (Client Interrupt Line Service Stop)
open Statement (Node)

structure Executor (σ : Type) where
  evaluate : σ → Node → Except Failure Value × σ
  query : σ → Value → Except Stop Value × σ

inductive Moment where
  | evaluated (node : Node)
  | received (value : Value)
  | answered (result : Value)

structure Exchange where
  node : Node
  value : Value
  result : Value

def Exchange.moments (e : Exchange) : List Moment :=
  [.evaluated e.node, .received e.value, .answered e.result]

inductive Tells : Failure → ShellError → Prop where
  | itself (e : ShellError) : Tells (.reported e) e
  | named (fault : Fault) : Tells (.fault fault) (.evaluation (fault.kind ++ ": " ++ fault.message))

theorem tells_toError (failure : Failure) : Tells failure failure.toError := by
  cases failure with
  | reported e => exact .itself e
  | fault fault => exact .named fault

namespace Outcome

structure Succeeds (o : Outcome) (results : List Value) : Prop where
  error : o.error = none
  completed : o.completed = results
  failedIndex : o.failedIndex = none
  single : ∀ v, results = [v] → o.value = v
  several : results.length ≠ 1 → o.value = .list results

structure Fails (o : Outcome) (results : List Value) (failure : Failure) : Prop where
  error : ∃ e, o.error = some e ∧ Tells failure e
  completed : o.completed = results
  failedIndex : o.failedIndex = some results.length
  value : o.value = .null

theorem succeeds_success (results : List Value) : (success results).Succeeds results where
  error := rfl
  completed := rfl
  failedIndex := rfl
  single := by
    rintro v rfl
    rfl
  several := by
    intro hlength
    unfold success
    split
    · exact absurd rfl hlength
    · rfl

theorem fails_failure (failure : Failure) {done results : List Value}
    (h : done.reverse = results) :
    (Outcome.failure failure.toError done.reverse (some done.length)).Fails results failure := by
  subst h
  refine ⟨⟨_, rfl, tells_toError failure⟩, rfl, ?_, rfl⟩
  rw [List.length_reverse]
  rfl

end Outcome

namespace Executor

variable {σ : Type}

def runStatement (x : Executor σ) (s : σ) (node : Node) : Except Stop Value × σ :=
  match x.evaluate s node with
  | (.ok expression, s) => x.query s expression
  | (.error failure, s) => (.error (.failed failure), s)

def runFrom (x : Executor σ) (done : List Value) (s : σ) :
    List Node → Except Interrupt Outcome × σ
  | [] => (.ok (.success done.reverse), s)
  | node :: nodes =>
      match x.runStatement s node with
      | (.ok result, s) => x.runFrom (result :: done) s nodes
      | (.error (.failed failure), s) =>
          (.ok (.failure failure.toError done.reverse (some done.length)), s)
      | (.error (.interrupted i), s) => (.error i, s)

def run (x : Executor σ) (s : σ) (nodes : List Node) : Except Interrupt Outcome × σ :=
  x.runFrom [] s nodes

def ofClient [Text.Codecs] (client : Client) (scope : Query.Scope) : Executor Line where
  evaluate line node := (Query.evaluate scope node, line)
  query := client.query

def recorded (x : Executor σ) : Executor (σ × List Moment) where
  evaluate s node :=
    let (made, t) := x.evaluate s.1 node
    (made, t, s.2 ++ [.evaluated node])
  query s v :=
    match x.query s.1 v with
    | (.ok result, t) => (.ok result, t, s.2 ++ [.received v, .answered result])
    | (.error stop, t) => (.error stop, t, s.2 ++ [.received v])

inductive Answers (x : Executor σ) : σ → List Exchange → σ → Prop where
  | nil {s : σ} : Answers x s [] s
  | cons {s t u last : σ} {e : Exchange} {es : List Exchange} :
      x.evaluate s e.node = (.ok e.value, t) → x.query t e.value = (.ok e.result, u) →
      Answers x u es last → Answers x s (e :: es) last

inductive Ends (x : Executor σ) (s : σ) :
    List Node → Except Interrupt Outcome → List Moment → σ → Prop where
  | succeeded {es : List Exchange} {t : σ} {o : Outcome} : x.Answers s es t →
      o.Succeeds (es.map Exchange.result) →
      Ends x s (es.map Exchange.node) (.ok o) (es.flatMap Exchange.moments) t
  | unevaluated {es : List Exchange} {t u : σ} {node : Node} {failure : Failure} {o : Outcome}
      (rest : List Node) : x.Answers s es t → x.evaluate t node = (.error failure, u) →
      o.Fails (es.map Exchange.result) failure →
      Ends x s (es.map Exchange.node ++ node :: rest) (.ok o)
        (es.flatMap Exchange.moments ++ [.evaluated node]) u
  | refused {es : List Exchange} {t u last : σ} {node : Node} {v : Value} {failure : Failure}
      {o : Outcome} (rest : List Node) : x.Answers s es t → x.evaluate t node = (.ok v, u) →
      x.query u v = (.error (.failed failure), last) →
      o.Fails (es.map Exchange.result) failure →
      Ends x s (es.map Exchange.node ++ node :: rest) (.ok o)
        (es.flatMap Exchange.moments ++ [.evaluated node, .received v]) last
  | interrupted {es : List Exchange} {t u last : σ} {node : Node} {v : Value} {i : Interrupt}
      (rest : List Node) : x.Answers s es t → x.evaluate t node = (.ok v, u) →
      x.query u v = (.error (.interrupted i), last) →
      Ends x s (es.map Exchange.node ++ node :: rest) (.error i)
        (es.flatMap Exchange.moments ++ [.evaluated node, .received v]) last

theorem Answers.snoc {x : Executor σ} {s t u last : σ} {es : List Exchange} {e : Exchange}
    (h : x.Answers s es t) (hmade : x.evaluate t e.node = (.ok e.value, u))
    (hanswer : x.query u e.value = (.ok e.result, last)) : x.Answers s (es ++ [e]) last := by
  induction h with
  | nil => exact .cons hmade hanswer .nil
  | cons hfirst hfound _ ih => exact .cons hfirst hfound (ih hmade)

section Step

variable {x : Executor σ} {s t u : σ} {log : List Moment} {node : Node} {v : Value}

theorem recorded_evaluate {made : Except Failure Value} (h : x.evaluate s node = (made, t)) :
    x.recorded.evaluate (s, log) node = (made, t, log ++ [.evaluated node]) := by
  simp only [recorded, h]

theorem recorded_query_ok {result : Value} (h : x.query s v = (.ok result, t)) :
    x.recorded.query (s, log) v = (.ok result, t, log ++ [.received v, .answered result]) := by
  simp only [recorded, h]

theorem recorded_query_error {stop : Stop} (h : x.query s v = (.error stop, t)) :
    x.recorded.query (s, log) v = (.error stop, t, log ++ [.received v]) := by
  simp only [recorded, h]

theorem runFrom_answered {result : Value} (hmade : x.evaluate s node = (.ok v, t))
    (hanswer : x.query t v = (.ok result, u)) (done : List Value) (nodes : List Node) :
    x.runFrom done s (node :: nodes) = x.runFrom (result :: done) u nodes := by
  simp only [runFrom, runStatement, hmade, hanswer]

theorem runFrom_unevaluated {failure : Failure} (hmade : x.evaluate s node = (.error failure, t))
    (done : List Value) (nodes : List Node) :
    x.runFrom done s (node :: nodes) =
      (.ok (.failure failure.toError done.reverse (some done.length)), t) := by
  simp only [runFrom, runStatement, hmade]

theorem runFrom_refused {failure : Failure} (hmade : x.evaluate s node = (.ok v, t))
    (hanswer : x.query t v = (.error (.failed failure), u)) (done : List Value)
    (nodes : List Node) :
    x.runFrom done s (node :: nodes) =
      (.ok (.failure failure.toError done.reverse (some done.length)), u) := by
  simp only [runFrom, runStatement, hmade, hanswer]

theorem runFrom_interrupted {i : Interrupt} (hmade : x.evaluate s node = (.ok v, t))
    (hanswer : x.query t v = (.error (.interrupted i), u)) (done : List Value)
    (nodes : List Node) : x.runFrom done s (node :: nodes) = (.error i, u) := by
  simp only [runFrom, runStatement, hmade, hanswer]

end Step

theorem runFrom_ends (x : Executor σ) {s t : σ} {es : List Exchange} {done : List Value}
    (h : x.Answers s es t) (hdone : done.reverse = es.map Exchange.result) (nodes : List Node) :
    ∃ ending moments last, x.runFrom done t nodes = (ending, last) ∧
      x.recorded.runFrom done (t, es.flatMap Exchange.moments) nodes = (ending, last, moments) ∧
      x.Ends s (es.map Exchange.node ++ nodes) ending moments last := by
  induction nodes generalizing es done t with
  | nil =>
      refine ⟨_, _, _, rfl, rfl, ?_⟩
      rw [List.append_nil, hdone]
      exact .succeeded h (Outcome.succeeds_success _)
  | cons node nodes ih =>
      cases hmade : x.evaluate t node with
      | mk made u =>
          cases made with
          | error failure =>
              exact ⟨_, _, u, runFrom_unevaluated hmade done nodes,
                runFrom_unevaluated (recorded_evaluate hmade) done nodes,
                .unevaluated nodes h hmade (Outcome.fails_failure failure hdone)⟩
          | ok v =>
              cases hanswer : x.query u v with
              | mk answer last =>
                  cases answer with
                  | ok result =>
                      have hmore := h.snoc (e := ⟨node, v, result⟩) hmade hanswer
                      have hnext : (result :: done).reverse =
                          (es ++ [(⟨node, v, result⟩ : Exchange)]).map Exchange.result := by
                        rw [List.reverse_cons, hdone, List.map_append]
                        rfl
                      obtain ⟨ending, moments, final, hrun, hrecorded, hends⟩ := ih hmore hnext
                      refine ⟨ending, moments, final, ?_, ?_, ?_⟩
                      · rw [runFrom_answered hmade hanswer, hrun]
                      · rw [runFrom_answered (recorded_evaluate hmade)
                          (recorded_query_ok hanswer), ← hrecorded]
                        simp [Exchange.moments]
                      · simpa using hends
                  | error stop =>
                      cases stop with
                      | failed failure =>
                          refine ⟨_, _, last, runFrom_refused hmade hanswer done nodes, ?_,
                            .refused nodes h hmade hanswer (Outcome.fails_failure failure hdone)⟩
                          rw [runFrom_refused (recorded_evaluate hmade)
                            (recorded_query_error hanswer), List.append_assoc]
                          rfl
                      | interrupted i =>
                          refine ⟨_, _, last, runFrom_interrupted hmade hanswer done nodes, ?_,
                            .interrupted nodes h hmade hanswer⟩
                          rw [runFrom_interrupted (recorded_evaluate hmade)
                            (recorded_query_error hanswer), List.append_assoc]
                          rfl

theorem run_ends (x : Executor σ) (s : σ) (nodes : List Node) : ∃ ending moments last,
    x.run s nodes = (ending, last) ∧ x.recorded.run (s, []) nodes = (ending, last, moments) ∧
      x.Ends s nodes ending moments last :=
  x.runFrom_ends .nil rfl nodes

def RunsInOrder (x : Executor σ) (s : σ) (nodes : List Node) : Prop :=
  ∃ o moments last, x.run s nodes = (.ok o, last) ∧
    x.recorded.run (s, []) nodes = (.ok o, last, moments) ∧
    x.Ends s nodes (.ok o) moments last

def Ordinary (x : Executor σ) (s : σ) : Prop :=
  ∀ es t node v u i, x.Answers s es t → x.evaluate t node = (.ok v, u) →
    (x.query u v).1 ≠ .error (.interrupted i)

theorem Ordinary.runsInOrder {x : Executor σ} {s : σ} (h : x.Ordinary s) (nodes : List Node) :
    x.RunsInOrder s nodes := by
  obtain ⟨ending, moments, last, hrun, hrecorded, hends⟩ := x.run_ends s nodes
  cases ending with
  | ok o => exact ⟨o, moments, last, hrun, hrecorded, hends⟩
  | error i =>
      cases hends with
      | @interrupted es t u _ node v _ _ hes hmade hanswer =>
          exact absurd (congrArg Prod.fst hanswer) (h es t node v u i hes hmade)

end Executor

def Uninterrupted (service : Service) : Prop :=
  ∀ before request i, service before request ≠ .interrupted i

section

variable [Text.Codecs]

theorem query_service {client : Client} {line next : Line} {v : Value}
    {answer : Except Stop Value} (h : client.query line v = (answer, next)) :
    next.service = line.service := by
  unfold Client.query at h
  split at h
  · cases h
    rfl
  · cases h
    rfl

theorem interrupted_of_query {client : Client} {line : Line} {v : Value} {i : Interrupt}
    (h : (client.query line v).1 = .error (.interrupted i)) :
    ∃ request, line.service line.requests request = .interrupted i := by
  unfold Client.query at h
  split at h
  · cases h
  · next request _ => exact ⟨request, Client.readReply_interrupted h⟩

section

variable (client : Client) (scope : Query.Scope)

theorem runStatement_ofClient (line : Line) (node : Node) :
    (Executor.ofClient client scope).runStatement line node =
      runStatement client scope line node := by
  simp only [Executor.runStatement, runStatement, Executor.ofClient]
  cases Query.evaluate scope node with
  | ok expression => rfl
  | error failure => rfl

theorem executeFrom_eq_runFrom (done : List Value) (line : Line) (nodes : List Node) :
    executeFrom client scope done line nodes =
      (Executor.ofClient client scope).runFrom done line nodes := by
  induction nodes generalizing done line with
  | nil => rfl
  | cons node nodes ih =>
      simp only [executeFrom, Executor.runFrom, runStatement_ofClient]
      cases runStatement client scope line node with
      | mk answer next =>
          cases answer with
          | ok result => exact ih (result :: done) next
          | error stop => cases stop <;> rfl

theorem service_of_answers {s t : Line} {es : List Exchange}
    (h : (Executor.ofClient client scope).Answers s es t) : t.service = s.service := by
  induction h with
  | nil => rfl
  | @cons s t u _ e _ hmade hanswer _ ih =>
      have hsame : s = t := congrArg Prod.snd hmade
      rw [ih, query_service hanswer, hsame]

theorem ordinary_ofClient {line : Line} (h : Uninterrupted line.service) :
    (Executor.ofClient client scope).Ordinary line := by
  intro es t node v u i hes hmade hanswer
  obtain ⟨request, hreply⟩ := interrupted_of_query hanswer
  have hsame : t = u := congrArg Prod.snd hmade
  rw [← hsame, service_of_answers client scope hes] at hreply
  exact h _ request i hreply

end

theorem execute_failFast {σ : Type} (x : Executor σ) {s : σ} (h : x.Ordinary s)
    (nodes : List Node) :
    x.RunsInOrder s nodes ∧
      ∀ client scope line, execute client scope line nodes =
          (Executor.ofClient client scope).run line nodes ∧
        (Uninterrupted line.service →
          (Executor.ofClient client scope).RunsInOrder line nodes) := by
  refine ⟨h.runsInOrder nodes, fun client scope line => ⟨?_, fun hservice => ?_⟩⟩
  · exact executeFrom_eq_runFrom client scope [] line nodes
  · exact (ordinary_ofClient client scope hservice).runsInOrder nodes

end

def refusing : Executor Nat where
  evaluate count node := (Query.evaluate Query.catalogueScope node, count)
  query count v :=
    if count < 2 then (.ok (.list [v]), count + 1)
    else (.error (.failed (.fault (.other "RuntimeError" "no more"))), count)

theorem ordinary_refusing : refusing.Ordinary 0 := by
  intro es t node v u i _ _ hanswer
  simp only [refusing] at hanswer
  split at hanswer <;> cases hanswer

def fourStatements : List Node :=
  [.literal (.int 1), .call "Get" [.literal (.str "a")], .literal .null, .identifier "Unknown"]

theorem execute_failFast_fourStatements :
    refusing.Ordinary 0 ∧
      Uninterrupted (Line.idle (Connection.scripted [])).service ∧
      (∃ value, refusing.run 0 fourStatements =
        (.ok (.failure (.evaluation "RuntimeError: no more") [.list [.int 1], value] (some 2)),
          2)) ∧
      refusing.RunsInOrder 0 fourStatements ∧
      (Executor.ofClient localClient Query.catalogueScope).RunsInOrder
        (.idle (Connection.scripted [])) fourStatements := by
  have hservice : Uninterrupted (Line.idle (Connection.scripted [])).service := by
    intro before request i hreply
    cases hreply
  obtain ⟨horder, hclient⟩ := execute_failFast refusing ordinary_refusing fourStatements
  exact ⟨ordinary_refusing, hservice, ⟨_, rfl⟩, horder, (hclient _ _ _).2 hservice⟩

end QueryShell.Session
