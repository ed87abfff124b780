import QueryShell.Proofs.Connection.Identity
import QueryShell.Query.Evaluation

namespace QueryShell

def ShellError.Worded (e : ShellError) : Prop :=
  ∃ text, e.message = .str text

def Failure.Worded (failure : Failure) : Prop :=
  failure.toError.Worded

theorem Failure.worded_fault (fault : Fault) : (Failure.fault fault).Worded :=
  ⟨fault.summary, rfl⟩

theorem worded_of_fault {α : Type} (x : Except Fault α) :
    FailsOnly Failure.Worded (x.mapError Failure.fault) := by
  cases x with
  | ok a => exact .ok a
  | error fault => exact .error (Failure.worded_fault fault)

namespace Query

open Statement (Node)

theorem lookup_worded (scope : Scope) (name : String) :
    FailsOnly Failure.Worded (lookup scope name) := by
  unfold lookup
  split
  · exact .ok _
  · exact .error ⟨_, rfl⟩

theorem lookupHelper_worded (scope : Scope) (name : String) :
    FailsOnly Failure.Worded (lookupHelper scope name) := by
  refine (lookup_worded scope name).bind fun v => ?_
  split
  · exact .ok _
  · exact .error ⟨_, rfl⟩

theorem callHelper_worded (name : String) (h : Helper) (args : List Value) :
    FailsOnly Failure.Worded (callHelper name h args) := by
  unfold callHelper
  split
  · exact .ok _
  · split
    · exact .error ⟨_, rfl⟩
    · exact .error (Failure.worded_fault _)

mutual

theorem evaluate_worded (scope : Scope) (node : Node) :
    FailsOnly Failure.Worded (evaluate scope node) := by
  cases node with
  | literal v => exact .ok v
  | identifier name => exact lookup_worded scope name
  | call name args =>
      exact (lookupHelper_worded scope name).bind fun helper =>
        (evaluateAll_worded scope args).bind fun values => callHelper_worded name helper values
  | array items => exact (evaluateAll_worded scope items).map _
  | object pairs => exact (evaluatePairs_worded scope pairs).map _
  | stray v => exact .error (Failure.worded_fault _)

theorem evaluateAll_worded (scope : Scope) (nodes : List Node) :
    FailsOnly Failure.Worded (evaluateAll scope nodes) := by
  cases nodes with
  | nil => exact .ok []
  | cons node nodes =>
      exact (evaluate_worded scope node).bind fun v => (evaluateAll_worded scope nodes).map _

theorem evaluatePairs_worded (scope : Scope) (pairs : List (Str × Node)) :
    FailsOnly Failure.Worded (evaluatePairs scope pairs) := by
  cases pairs with
  | nil => exact .ok []
  | cons pair pairs =>
      obtain ⟨key, node⟩ := pair
      exact (evaluate_worded scope node).bind fun v => (evaluatePairs_worded scope pairs).map _

end

end Query

namespace Connection

def described? (payload : Value) : Option Value :=
  (firstError? payload).bind fun first =>
    [Value.ofOption (Value.field? first "description"),
      Value.ofOption (Value.field? first "code")].find? Value.truthy

theorem rejection_message (status : Int) (payload : Value) :
    (rejection status payload).message = (described? payload).getD (statusMessage status) := by
  unfold rejection described?
  cases firstError? payload with
  | none => rfl
  | some first =>
      simp only [firstTruthy, Option.bind_some, List.find?_cons, List.find?_nil]
      split
      · next hdescription => simp [hdescription]
      · next hdescription =>
          split
          · next hcode => simp [hdescription, hcode]
          · next hcode => simp [hdescription, hcode]

def SaysText (payload : Value) : Prop :=
  ∀ v, described? payload = some v → ∃ text, v = .str text

theorem saysText_of_no_errors {payload : Value} (h : firstError? payload = none) :
    SaysText payload := by
  intro v hv
  rw [described?, h] at hv
  cases hv

theorem rejection_worded {payload : Value} (h : SaysText payload) (status : Int) :
    (rejection status payload).Worded := by
  cases hsaid : described? payload with
  | none => exact ⟨_, by rw [rejection_message, hsaid]; rfl⟩
  | some v =>
      obtain ⟨text, rfl⟩ := h v hsaid
      exact ⟨text, by rw [rejection_message, hsaid]; rfl⟩

theorem truthy_of_described {payload v : Value} (h : described? payload = some v) :
    v.truthy = true := by
  obtain ⟨first, -, hfound⟩ := Option.bind_eq_some_iff.1 h
  exact List.find?_some hfound

inductive Reply.Illegible : Reply → Prop where
  | intro {status : Nat} {body : List UInt8} {payload : Value} (contentType : Option String)
      (hstatus : Client.isErrorStatus status = true) (hbody : Json.readBytes? body = some payload)
      (hsaid : ¬ SaysText payload) : Illegible (.response status contentType body)

namespace Client

def checkReply? (root : Client) (service : Service) (database : String) : Option Reply :=
  if database = "" then none
  else ((Query.toWire (existenceCheck database) >>= root.request).toOption).map (service [])

theorem exists_of_checkReply {root : Client} {service : Service} {database : String}
    {reply : Reply} (h : root.checkReply? service database = some reply) :
    ∃ check, reply = service [] check := by
  unfold checkReply? at h
  split at h
  · cases h
  · obtain ⟨check, -, hreply⟩ := Option.map_eq_some_iff.1 h
    exact ⟨check, hreply.symm⟩

variable [Text.Codecs]

theorem readResponse_worded {status : Nat} {contentType : Option String} {body : List UInt8}
    (h : ¬ (Reply.response status contentType body).Illegible) :
    FailsOnly Failure.Worded (readResponse status contentType body) := by
  have htext : FailsOnly Failure.Worded (if ((Json.readBytes? body).getD .null).isNull then
      ((charsetOf contentType).read body).mapError Failure.fault else .ok []) := by
    split
    · exact worded_of_fault _
    · exact .ok []
  unfold readResponse
  cases hstatus : isErrorStatus status with
  | true =>
      refine htext.bind fun text => .error (rejection_worded ?_ _)
      split
      · cases hbody : Json.readBytes? body with
        | none => exact saysText_of_no_errors rfl
        | some payload =>
            exact Classical.byContradiction fun hsaid => h (.intro contentType hstatus hbody hsaid)
      · exact saysText_of_no_errors rfl
  | false =>
      simp only [Bool.false_eq_true, if_false]
      split
      · exact worded_of_fault _
      · exact htext.bind fun text => .error ⟨_, rfl⟩

theorem readReply_worded (c : Client) {reply : Reply} (h : ¬ reply.Illegible) {failure : Failure}
    (hfailed : c.readReply reply = .error (.failed failure)) : failure.Worded := by
  cases reply with
  | response status contentType body =>
      rw [readReply] at hfailed
      cases hread : readResponse status contentType body with
      | ok v =>
          rw [hread] at hfailed
          cases hfailed
      | error failure' =>
          rw [hread] at hfailed
          cases hfailed
          exact readResponse_worded h failure hread
  | unreachable kind message =>
      cases hfailed
      exact ⟨_, rfl⟩
  | fault fault =>
      cases hfailed
      exact Failure.worded_fault fault
  | interrupted i => cases hfailed

theorem readReply_illegible (c : Client) {reply : Reply} (h : reply.Illegible) :
    ∃ e, c.readReply reply = .error (.failed (.reported e)) ∧ e.message.truthy = true ∧
      ¬ e.Worded := by
  cases h with
  | @intro status body payload contentType hstatus hbody hsaid =>
      obtain ⟨v, hv⟩ := Classical.not_forall.1 hsaid
      obtain ⟨hdescribed, hv⟩ := Classical.not_imp.1 hv
      have hpayload : payload.isNull = false := by
        cases payload with
        | null => cases hdescribed
        | _ => rfl
      have hmessage : (rejection status payload).message = v := by
        rw [rejection_message, hdescribed]
        rfl
      refine ⟨rejection status payload, ?_, ?_, ?_⟩
      · simp only [readReply, readResponse, hbody, hstatus, hpayload, Option.getD_some, if_true]
        rfl
      · rw [hmessage]
        exact truthy_of_described hdescribed
      · unfold ShellError.Worded
        rwa [hmessage]

section

variable {root : Client} {service : Service} {database : String}

theorem access_eq (root : Client) (service : Service) (database : String) :
    (root.access (.idle service) database).1 =
      match root.checkReply? service database with
      | none => .ok root
      | some reply => root.readReply reply >>= fun found =>
          if found.truthy then .ok (root.scopedTo database)
          else .error (.failed (.reported (databaseMissing database))) := by
  by_cases hname : database = ""
  · subst hname
    rfl
  · obtain ⟨check, hcheck, -⟩ := root.exists_existenceCheck database
    have hnamed : (database == "") = false := by simpa using hname
    simp only [access, checkReply?, hnamed, Bool.false_eq_true, if_false, if_neg hname, query,
      hcheck, Line.send]
    have hsent : (Line.idle service).service (Line.idle service).requests check =
        service [] check := rfl
    change _ = (root.readReply (service [] check) >>= _)
    rw [hsent]
    cases root.readReply (service [] check) with
    | error stop => rfl
    | ok found =>
        simp only [bind, Except.bind]
        cases found.truthy <;> rfl

theorem readReply_interrupted {reply : Reply} {i : Interrupt}
    (h : root.readReply reply = .error (.interrupted i)) : reply = .interrupted i := by
  cases reply with
  | response status contentType body =>
      rw [readReply] at h
      cases hread : readResponse status contentType body <;> rw [hread] at h <;> cases h
  | unreachable kind message => cases h
  | fault fault => cases h
  | interrupted i' =>
      cases h
      rfl

theorem access_error {stop : Stop}
    (h : (root.access (.idle service) database).1 = .error stop) :
    ∃ reply, root.checkReply? service database = some reply ∧
      (root.readReply reply = .error stop ∨
        stop = .failed (.reported (databaseMissing database))) := by
  rw [access_eq] at h
  split at h
  · cases h
  · next reply hreply =>
      refine ⟨reply, hreply, ?_⟩
      cases hread : root.readReply reply with
      | error stop' =>
          rw [hread] at h
          cases h
          exact .inl rfl
      | ok found =>
          rw [hread] at h
          change (if found.truthy then _ else _) = _ at h
          split at h
          · cases h
          · cases h
            exact .inr rfl

theorem access_worded
    (h : ∀ reply, root.checkReply? service database = some reply → ¬ reply.Illegible)
    {failure : Failure}
    (hfailed : (root.access (.idle service) database).1 = .error (.failed failure)) :
    failure.Worded := by
  obtain ⟨reply, hreply, hread | hmissing⟩ := access_error hfailed
  · exact root.readReply_worded (h reply hreply) hread
  · cases hmissing
    exact ⟨_, rfl⟩

theorem access_illegible {reply : Reply} (hreply : root.checkReply? service database = some reply)
    (h : reply.Illegible) :
    ∃ e, (root.access (.idle service) database).1 = .error (.failed (.reported e)) ∧
      e.message.truthy = true ∧ ¬ e.Worded := by
  obtain ⟨e, hread, htruthy, hworded⟩ := root.readReply_illegible h
  refine ⟨e, ?_, htruthy, hworded⟩
  simp only [access_eq, hreply, hread]
  rfl

theorem access_interrupted {i : Interrupt}
    (h : (root.access (.idle service) database).1 = .error (.interrupted i)) :
    root.checkReply? service database = some (.interrupted i) := by
  obtain ⟨reply, hreply, hread | hmissing⟩ := access_error h
  · rw [hreply, readReply_interrupted hread]
  · cases hmissing

end

end Client

def numberedBody : List UInt8 :=
  Text.encodeUtf8 "\x7b\"errors\":[\x7b\"code\":\"validation failed\",\"description\":5\x7d]\x7d"

def numberedRejection : Reply :=
  .response 400 none numberedBody

theorem illegible_numberedRejection : numberedRejection.Illegible := by
  have hsaid : ((Json.readBytes? numberedBody).bind described?).map Value.typeName =
      some "int" := by decide +kernel
  obtain ⟨v, hv, hint⟩ := Option.map_eq_some_iff.1 hsaid
  obtain ⟨payload, hbody, hdescribed⟩ := Option.bind_eq_some_iff.1 hv
  refine .intro none (by decide) hbody fun htext => ?_
  obtain ⟨text, rfl⟩ := htext v hdescribed
  have hkind : "str" = "int" := hint
  exact absurd hkind (by decide)

end Connection

end QueryShell
