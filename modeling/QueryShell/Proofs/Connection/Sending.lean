import QueryShell.Proofs.Connection.Judgement
import QueryShell.Proofs.Json.RoundTrip

namespace QueryShell.Connection

open Json (Document Encodable Finite)
open Value (textKeyed)

structure Request.Bears (r : Request) (wire : Value) : Prop where
  written : Json.write wire = .ok r.body
  readable : Json.read r.body = .ok wire

namespace Client

section

variable {c : Client} {line : Line} {expression wire : Value} {request : Request} {fault : Fault}

theorem query_events_of_ok [Text.Codecs]
    (h : (Query.toWire expression >>= c.request) = .ok request) :
    (c.query line expression).2.events = .sent c.identity request :: line.events := by
  unfold query
  rw [h]
  rfl

theorem query_events_of_error [Text.Codecs]
    (h : (Query.toWire expression >>= c.request) = .error fault) :
    (c.query line expression).2.events = line.events := by
  unfold query
  rw [h]

theorem exists_text (h : c.request wire = .ok request) :
    ∃ text, Json.write wire = .ok (Str.of text) ∧
      request.body = if wire.isNull then "" else text := by
  obtain ⟨body, hbody, heq⟩ := bind_ok.1 h
  obtain ⟨text, htext, hencoded⟩ := bind_ok.1 hbody
  obtain rfl := Json.encodable_eq_ok_iff.1 hencoded
  cases heq
  refine ⟨body, htext, ?_⟩
  cases wire.isNull <;> rfl

theorem bears_iff (hdocument : Document Finite wire) (h : c.request wire = .ok request) :
    request.Bears wire ↔ wire ≠ .null := by
  obtain ⟨text, htext, hbody⟩ := exists_text h
  constructor
  · rintro hbears rfl
    have hempty : request.body = "" := hbody
    have hread := hbears.readable
    rw [hempty] at hread
    cases hread
  · intro hnull
    have hsome : wire.isNull = false := by
      cases wire with
      | null => exact absurd rfl hnull
      | _ => rfl
    rw [hsome] at hbody
    have hbody : request.body = text := hbody
    obtain ⟨text', htext', hread⟩ :=
      hdocument.read_write (hdocument.returns_write_iff.1 ⟨_, htext⟩)
    obtain rfl := Except.ok.inj (htext.symm.trans htext')
    exact ⟨by rw [hbody, htext], by rw [hbody, hread]⟩

end

theorem query_sends_iff [Text.Codecs] (c : Client) (line : Line) {expression wire : Value}
    (hwire : Query.toWire expression = .ok wire) (hdocument : Document Finite wire) :
    (∃ request, (c.query line expression).2.events = .sent c.identity request :: line.events ∧
      request.Bears wire) ↔ wire ≠ .null ∧ Document Encodable wire := by
  have hsame : (Query.toWire expression >>= c.request) = c.request wire := by
    rw [hwire]
    rfl
  rw [← c.returns_request_iff hdocument]
  cases hrequest : c.request wire with
  | error fault =>
      rw [query_events_of_error (hsame.trans hrequest)]
      refine iff_of_false ?_ fun h => not_returns_error _ h.2
      rintro ⟨request, hevents, -⟩
      exact absurd hevents.symm (List.cons_ne_self _ _)
  | ok request =>
      rw [query_events_of_ok (hsame.trans hrequest)]
      constructor
      · rintro ⟨sent, hevents, hbears⟩
        cases hevents
        exact ⟨(bears_iff hdocument hrequest).1 hbears, returns_ok _⟩
      · rintro ⟨hnull, -⟩
        exact ⟨request, rfl, (bears_iff hdocument hrequest).2 hnull⟩

end Client

def sentItems : List Value :=
  [.null, .bool true, .int (-7), .float 0.1, .str "\x7b\"\n"]

def sentDict : Value :=
  .dict [(.str "items", .list sentItems)]

def sentWire : Value :=
  .dict [(.str "object", sentDict)]

theorem document_sentWire (leaf : Value → Prop) (hint : leaf (.int (-7)))
    (hfloat : leaf (.float 0.1)) (hstr : ∀ s : String, leaf (.str s)) :
    Document leaf sentWire := by
  have hitems : ∀ v ∈ sentItems, Document leaf v := by
    simp [sentItems, Document.null, Document.bool, Document.int hint, Document.float hfloat,
      Document.str (hstr _)]
  exact (Document.list hitems).pair (hstr "items") |>.pair (hstr "object")

theorem query_sends_iff_sentDict :
    Query.toWire sentDict = .ok sentWire ∧ Document Finite sentWire ∧
      ∃ request, (sampleClient.query (.idle (scripted [])) sentDict).2.events =
        [.sent sampleClient.identity request] ∧ request.Bears sentWire := by
  have hfinite : Finite (.float 0.1) :=
    show Decimal.isFinite 0.1 = true by decide +kernel
  have hshort : (-7 : Int).natAbs < Decimal.tenTo Decimal.digitLimit := by decide +kernel
  have hdocument := document_sentWire Finite trivial hfinite fun s => trivial
  refine ⟨rfl, hdocument, ?_⟩
  refine (sampleClient.query_sends_iff (.idle (scripted [])) rfl hdocument).2 ⟨nofun, ?_⟩
  exact document_sentWire Encodable ⟨hshort, trivial⟩ ⟨trivial, trivial⟩ fun s =>
    ⟨trivial, Str.isWhole_ofChars s.toList⟩

/-- A bare null is sent as an empty body, which is no JSON. -/
theorem query_bareNull :
    Query.toWire .null = .ok .null ∧ Document Finite .null ∧ Document Encodable .null ∧
      (sampleClient.query (.idle (scripted [])) .null).2.sent.map Request.body = [""] ∧
      ¬ ∃ request, (sampleClient.query (.idle (scripted [])) .null).2.events =
        [.sent sampleClient.identity request] ∧ request.Bears .null := by
  refine ⟨rfl, .null, .null, rfl, ?_⟩
  rintro ⟨request, hevents, hbears⟩
  cases hevents
  cases hbears.readable

end QueryShell.Connection
