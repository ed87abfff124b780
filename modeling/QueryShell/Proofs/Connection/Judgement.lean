import QueryShell.Proofs.Connection.Rejection
import QueryShell.Proofs.Json.Document

namespace QueryShell.Connection

open Json (Document Encodable Finite readBytes? document_readBytes?)

inductive Reply.Delivers : Reply → Value → Prop where
  | intro {status : Nat} (contentType : Option String) {body : List UInt8}
      {pairs : List (Value × Value)} {v : Value} : ¬ (400 ≤ status ∧ status ≤ 599) →
      readBytes? body = some (.dict pairs) → (.str "resource", v) ∈ pairs →
      Delivers (.response status contentType body) v

def NoValue (body : List UInt8) : Prop :=
  ∀ v, readBytes? body = some v → v = .null

section

variable [Text.Codecs]

inductive Reply.Garbled : Reply → Prop where
  | intro (status : Nat) {contentType : Option String} {body : List UInt8} {fault : Fault} :
      NoValue body → (charsetOf contentType).read body = .error fault →
      Garbled (.response status contentType body)

inductive Payload (status : Nat) (contentType : Option String) (body : List UInt8) :
    Value → Prop where
  | value {v : Value} : readBytes? body = some v → v ≠ .null → Payload status contentType body v
  | text {text : Str} : NoValue body → (charsetOf contentType).read body = .ok text →
      (400 ≤ status ∧ status ≤ 599 → text ≠ []) →
      Payload status contentType body (.dict [(.str "body", .str text)])
  | nothing : NoValue body → (charsetOf contentType).read body = .ok [] →
      400 ≤ status ∧ status ≤ 599 → Payload status contentType body .null

end

def Under (pairs : List (Value × Value)) (key : String) (v : Value) : Prop :=
  (.str key, v) ∈ pairs ∨ (v = .null ∧ ∀ w, (.str key, w) ∉ pairs)

def Lists (payload : Value) (first : List (Value × Value)) : Prop :=
  ∃ pairs others, payload = .dict pairs ∧ (.str "errors", .list (.dict first :: others)) ∈ pairs

def statusText (status : Nat) : Value :=
  .str ("Request failed with HTTP status " ++ Decimal.integer status ++ ".")

inductive Diagnosed (status : Nat) (payload : Value) : Value → Value → Prop where
  | described {first : List (Value × Value)} {code description : Value} : Lists payload first →
      Under first "code" code → Under first "description" description →
      description.truthy = true → Diagnosed status payload code description
  | coded {first : List (Value × Value)} {code description : Value} : Lists payload first →
      Under first "code" code → Under first "description" description →
      description.truthy = false → code.truthy = true → Diagnosed status payload code code
  | bare {first : List (Value × Value)} {code description : Value} : Lists payload first →
      Under first "code" code → Under first "description" description →
      description.truthy = false → code.truthy = false →
      Diagnosed status payload code (statusText status)
  | unlisted : (∀ first, ¬ Lists payload first) →
      Diagnosed status payload .null (statusText status)

section

variable [Text.Codecs]

inductive Judged (status : Nat) (contentType : Option String) (body : List UInt8) :
    Except Stop Value → Prop where
  | result {v : Value} : (Reply.response status contentType body).Delivers v →
      Judged status contentType body (v.decode.mapError fun fault => .failed (.fault fault))
  | rejection {payload code message : Value} : 400 ≤ status ∧ status ≤ 599 →
      Payload status contentType body payload → Diagnosed status payload code message →
      Judged status contentType body (.error (.failed (.reported
        { cause := .service (some status) code, message := message, payload := payload })))
  | noResult {payload : Value} : ¬ (400 ≤ status ∧ status ≤ 599) →
      (∀ v, ¬ (Reply.response status contentType body).Delivers v) →
      Payload status contentType body payload →
      Judged status contentType body (.error (.failed (.reported
        { cause := .service (some status) .null
          message := .str "Response did not contain a result."
          payload := payload })))

end

section

variable {leaf : Value → Prop} {payload code message : Value} {pairs first : List (Value × Value)}
  {status : Nat}

theorem under_iff (h : Document leaf (.dict pairs)) {key : String} {v : Value} :
    Under pairs key v ↔ v = Value.ofOption (Value.field? pairs key) := by
  unfold Under
  cases hfield : Value.field? pairs key with
  | some w =>
      have hmem := h.field?_eq_some_iff.1 hfield
      constructor
      · rintro (hv | ⟨-, hnone⟩)
        · exact Option.some.inj ((h.field?_eq_some_iff.2 hv).symm.trans hfield)
        · exact absurd hmem (hnone w)
      · rintro rfl
        exact .inl hmem
  | none =>
      have hnone : ∀ w, (.str key, w) ∉ pairs := by
        intro w hw
        cases hfield.symm.trans (h.field?_eq_some_iff.2 hw)
      constructor
      · rintro (hv | ⟨rfl, -⟩)
        · exact absurd hv (hnone v)
        · rfl
      · rintro rfl
        exact .inr ⟨rfl, hnone⟩

theorem firstError?_eq_some_iff (h : Document leaf payload) :
    firstError? payload = some first ↔ Lists payload first := by
  constructor
  · intro hfirst
    unfold firstError? at hfirst
    split at hfirst
    · next pairs =>
        split at hfirst
        · next first' others hfield =>
            cases hfirst
            exact ⟨pairs, others, rfl, h.field?_eq_some_iff.1 hfield⟩
        · cases hfirst
    · cases hfirst
  · rintro ⟨pairs, others, rfl, hmem⟩
    simp [firstError?, h.field?_eq_some_iff.2 hmem]

theorem Lists.document (hlists : Lists payload first) (h : Document leaf payload) :
    Document leaf (.dict first) := by
  obtain ⟨pairs, others, rfl, hmem⟩ := hlists
  exact Json.document_list_iff.1 (h.value hmem) _ (by simp)

theorem rejection_of_lists (h : Document leaf payload) (hlists : Lists payload first)
    {description : Value} (hcode : Under first "code" code)
    (hdescription : Under first "description" description) :
    rejection status payload =
      { cause := .service (some status) code
        message := firstTruthy description code (statusMessage status)
        payload := payload } := by
  have hfirst := hlists.document h
  rw [(under_iff hfirst).1 hcode, (under_iff hfirst).1 hdescription, rejection,
    (firstError?_eq_some_iff h).2 hlists]

theorem firstError?_eq_none_iff (h : Document leaf payload) :
    firstError? payload = none ↔ ∀ first, ¬ Lists payload first := by
  simp only [← firstError?_eq_some_iff h, Option.eq_none_iff_forall_ne_some, ne_eq]

theorem Diagnosed.rejection_eq (h : Document leaf payload)
    (hdiagnosed : Diagnosed status payload code message) :
    rejection status payload =
      { cause := .service (some status) code, message := message, payload := payload } := by
  cases hdiagnosed with
  | described hlists hcode hdescription htruthy =>
      simp [rejection_of_lists h hlists hcode hdescription, firstTruthy, htruthy]
  | coded hlists hcode hdescription hfalsy htruthy =>
      simp [rejection_of_lists h hlists hcode hdescription, firstTruthy, hfalsy, htruthy]
  | bare hlists hcode hdescription hfalsy hfalsy' =>
      simp [rejection_of_lists h hlists hcode hdescription, firstTruthy, hfalsy, hfalsy',
        statusText, statusMessage]
  | unlisted hnone =>
      rw [rejection, (firstError?_eq_none_iff h).2 hnone]
      rfl

end

section

variable {status : Nat} {contentType : Option String} {body : List UInt8} {v : Value}

theorem isErrorStatus_iff : Client.isErrorStatus status = true ↔ 400 ≤ status ∧ status ≤ 599 := by
  simp [Client.isErrorStatus]

theorem isNull_iff : v.isNull = true ↔ v = .null := by
  cases v <;> simp [Value.isNull]

theorem resource?_eq_some_iff {leaf : Value → Prop} {payload : Value}
    (h : Document leaf payload) :
    Client.resource? payload = some v ↔
      ∃ pairs, payload = .dict pairs ∧ (.str "resource", v) ∈ pairs := by
  cases payload with
  | dict pairs =>
      rw [Client.resource?, h.field?_eq_some_iff]
      refine ⟨fun hmem => ⟨pairs, rfl, hmem⟩, ?_⟩
      rintro ⟨_, ⟨⟩, hmem⟩
      exact hmem
  | _ =>
      refine iff_of_false (by simp [Client.resource?]) ?_
      rintro ⟨pairs, heq, -⟩
      cases heq

theorem delivers_iff {payload : Value} (hbody : readBytes? body = some payload) :
    (Reply.response status contentType body).Delivers v ↔
      ¬ (400 ≤ status ∧ status ≤ 599) ∧ Client.resource? payload = some v := by
  rw [resource?_eq_some_iff (document_readBytes? hbody)]
  constructor
  · intro h
    cases h with
    | intro _ hstatus hpairs hmem =>
        cases hbody.symm.trans hpairs
        exact ⟨hstatus, _, rfl, hmem⟩
  · rintro ⟨hstatus, pairs, rfl, hmem⟩
    exact .intro contentType hstatus hbody hmem

theorem Client.returns_request_iff (c : Client) {wire : Value} (h : Document Finite wire) :
    Returns (c.request wire) ↔ Document Encodable wire :=
  returns_map.trans h.returns_encoded_iff

variable [Text.Codecs]

namespace Client

theorem readResponse_of_value (hbody : readBytes? body = some v) (hv : v ≠ .null) :
    readResponse status contentType body =
      if isErrorStatus status then .error (.reported (rejection status v))
      else match resource? v with
        | some found => found.decode.mapError .fault
        | none => .error (.reported (noResult status v)) := by
  have hnull : v.isNull = false := by
    rw [← Bool.not_eq_true, isNull_iff]
    exact hv
  simp only [readResponse, hbody, Option.getD_some, hnull]
  cases isErrorStatus status with
  | true => rfl
  | false => cases resource? v <;> rfl

theorem readResponse_of_noValue (h : NoValue body) :
    readResponse status contentType body =
      ((charsetOf contentType).read body).mapError Failure.fault >>= fun text =>
        .error (.reported (if isErrorStatus status then
            rejection status (if text.isEmpty then .null else bodyPayload text)
          else noResult status (bodyPayload text))) := by
  have hnull : (readBytes? body).getD .null = .null := by
    cases hbody : readBytes? body with
    | none => rfl
    | some v => exact h v hbody
  simp only [readResponse, hnull]
  cases (charsetOf contentType).read body with
  | error fault => cases isErrorStatus status <;> rfl
  | ok text => cases isErrorStatus status <;> rfl

theorem readResponse_of_delivers (h : (Reply.response status contentType body).Delivers v) :
    readResponse status contentType body = v.decode.mapError Failure.fault := by
  cases h with
  | @intro _ _ _ pairs _ hstatus hbody hmem =>
      have hsuccess : isErrorStatus status = false := by
        rw [← Bool.not_eq_true, isErrorStatus_iff]
        exact hstatus
      have hresource : resource? (.dict pairs) = some v :=
        (resource?_eq_some_iff (document_readBytes? hbody)).2 ⟨pairs, rfl, hmem⟩
      rw [readResponse_of_value hbody (by simp), hsuccess, hresource]
      rfl

end Client

variable {payload : Value} {outcome : Except Stop Value}

theorem Payload.document (h : Payload status contentType body payload) :
    Document Json.AnyLeaf payload := by
  cases h with
  | value hbody _ => exact document_readBytes? hbody
  | text _ _ _ => exact (Document.str trivial).pair trivial
  | nothing _ _ _ => exact .null

theorem Payload.readResponse_of_error (h : Payload status contentType body payload)
    (hstatus : 400 ≤ status ∧ status ≤ 599) :
    Client.readResponse status contentType body =
      .error (.reported (rejection status payload)) := by
  have herror := isErrorStatus_iff.2 hstatus
  cases h with
  | value hbody hv => rw [Client.readResponse_of_value hbody hv, herror, if_pos rfl]
  | @text text hnone hread hempty =>
      cases text with
      | nil => exact absurd rfl (hempty hstatus)
      | cons ch chars =>
          rw [Client.readResponse_of_noValue hnone, hread, herror]
          rfl
  | nothing hnone hread _ =>
      rw [Client.readResponse_of_noValue hnone, hread, herror]
      rfl

theorem Payload.readResponse_of_success (h : Payload status contentType body payload)
    (hstatus : ¬ (400 ≤ status ∧ status ≤ 599))
    (hresult : ∀ v, ¬ (Reply.response status contentType body).Delivers v) :
    Client.readResponse status contentType body =
      .error (.reported (Client.noResult status payload)) := by
  have hsuccess : Client.isErrorStatus status = false := by
    rw [← Bool.not_eq_true, isErrorStatus_iff]
    exact hstatus
  cases h with
  | value hbody hv =>
      have hresource : Client.resource? payload = none :=
        Option.eq_none_iff_forall_ne_some.2 fun v hv =>
          hresult v ((delivers_iff hbody).2 ⟨hstatus, hv⟩)
      rw [Client.readResponse_of_value hbody hv, hsuccess, hresource]
      rfl
  | text hnone hread _ =>
      rw [Client.readResponse_of_noValue hnone, hread, hsuccess]
      rfl
  | nothing _ _ herror => exact absurd herror hstatus

theorem Judged.eq (h : Judged status contentType body outcome) :
    outcome = (Client.readResponse status contentType body).mapError Stop.failed := by
  cases h with
  | @result v hdelivers =>
      rw [Client.readResponse_of_delivers hdelivers]
      cases v.decode <;> rfl
  | rejection hstatus hpayload hdiagnosed =>
      rw [hpayload.readResponse_of_error hstatus, hdiagnosed.rejection_eq hpayload.document]
      rfl
  | noResult hstatus hresult hpayload =>
      rw [hpayload.readResponse_of_success hstatus hresult]
      rfl

namespace Client

end Client

end

def sampleClient : Client where
  options :=
    { secret := "fnA", domain := "db.fauna.com", scheme := "https", port := 443, timeout := none }
  identity := .root
  secret := "fnA"
  url :=
    { scheme := "https", userinfo := [], host := "db.fauna.com".toList, port := none,
      path := ['/'], query := none, fragment := none }

end QueryShell.Connection
