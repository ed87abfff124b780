import QueryShell.Connection.Access
import QueryShell.Proofs.Computation
import QueryShell.Proofs.Json.Document
import QueryShell.Proofs.Json.ReadBack
import QueryShell.Proofs.Text.Base64
import QueryShell.Proofs.Text.Utf8

namespace QueryShell.Connection

def Request.Carries (r : Request) (secret : String) : Prop :=
  ∃ cs, r.authorization = "Basic " ++ String.ofList cs ∧
    Text.Base64.decode cs = .ok (Text.encodeUtf8 (secret ++ ":"))

theorem Request.Carries.unique {r : Request} {secret other : String} (h : r.Carries secret)
    (h' : r.Carries other) : secret = other := by
  obtain ⟨cs, hcs, hbytes⟩ := h
  obtain ⟨ds, hds, hbytes'⟩ := h'
  have htext : cs = ds :=
    String.ofList_injective ((String.append_right_inj _).1 (hcs.symm.trans hds))
  rw [htext, hbytes'] at hbytes
  have hsame := Text.encodeUtf8_inj.1 (Except.ok.inj hbytes)
  exact ((String.append_left_inj ":").1 hsame).symm

def Request.AsksFor (r : Request) (database : String) : Prop :=
  Json.read r.body = .ok (.dict [(.str "exists", .dict [(.str "database", .str database)])])

namespace Client

theorem request_carries {c : Client} {wire : Value} {r : Request} (h : c.request wire = .ok r) :
    r.Carries c.secret := by
  obtain ⟨body, -, heq⟩ := bind_ok.1 h
  cases heq
  refine ⟨_, rfl, ?_⟩
  rw [Text.Base64.decode, Text.Base64.decodeFrom_map]
  · exact Text.Base64.decode_encode _
  · intro ch
    split
    · next hc => simp [hc]
    · split
      · next hc => simp [hc]
      · rfl
  · intro ch
    split
    · next hc => rw [hc]; rfl
    · split
      · next hc => rw [hc]; rfl
      · rfl

theorem exists_existenceCheck (c : Client) (database : String) :
    ∃ check, (Query.toWire (existenceCheck database) >>= c.request) = .ok check ∧
      check.AsksFor database := by
  have hreads := ((Json.readsBack_string database).pair "database").pair "exists"
  obtain ⟨text, hwrite, hread⟩ := hreads.read_write
  have hname (name : String) : Json.Whole (.str name) := Str.isWhole_ofChars _
  have hwhole :=
    ((Json.Document.str (hname database)).pair (hname "database")).pair (hname "exists")
  obtain ⟨body, hbody⟩ := Json.returns_encodable_iff.2 ((hwhole.isWhole_iff hwrite).2 hwhole)
  rw [Json.encodable_eq_ok_iff.1 hbody] at hread
  have hwire : Query.toWire (existenceCheck database) =
      .ok (.dict [(.str "exists", .dict [(.str "database", .str database)])]) := rfl
  rw [hwire]
  refine ⟨_, bind_ok.2 ⟨_, rfl, bind_ok.2 ⟨body, bind_ok.2 ⟨text, hwrite, hbody⟩, rfl⟩⟩, ?_⟩
  exact hread

theorem root_eq {options : Options} {root : Client} (h : Client.root options = .ok root) :
    root.options = options ∧ root.identity = .root ∧ root.secret = options.secret := by
  obtain ⟨url, -, heq⟩ := bind_ok.1 h
  cases heq
  exact ⟨rfl, rfl, rfl⟩

variable [Text.Codecs]

theorem access_unnamed (root : Client) (line : Line) :
    root.access line "" = (.ok root, line) := rfl

def Finds (c : Client) (reply : Reply) : Prop :=
  ∃ v, c.readReply reply = .ok v ∧ v.truthy = true

theorem access_named (root : Client) (line : Line) {database : String} (h : database ≠ "") :
    ∃ check, check.Carries root.secret ∧ check.AsksFor database ∧
      (root.Finds (line.service line.requests check) →
        root.access line database =
          (.ok (root.scopedTo database), (line.send root.identity check).2)) ∧
      (¬ root.Finds (line.service line.requests check) →
        ∃ stop, root.access line database = (.error stop, (line.send root.identity check).2)) := by
  obtain ⟨check, hcheck, hasks⟩ := root.exists_existenceCheck database
  obtain ⟨wire, hwire, hrequest⟩ := bind_ok.1 hcheck
  have hname : (database == "") = false := by simpa using h
  refine ⟨check, request_carries hrequest, hasks, ?_, ?_⟩
  · rintro ⟨v, hreply, hfound⟩
    simp [access, hname, query, hcheck, Line.send, hreply, hfound]
  · intro hlost
    cases hreply : root.readReply (line.service line.requests check) with
    | error stop => exact ⟨stop, by simp [access, hname, query, hcheck, Line.send, hreply]⟩
    | ok v =>
        have hfalsy : v.truthy = false := by
          cases hfound : v.truthy with
          | false => rfl
          | true => exact absurd ⟨v, hreply, hfound⟩ hlost
        exact ⟨_, by simp [access, hname, query, hcheck, Line.send, hreply, hfalsy]; rfl⟩

end Client

theorem Line.release_sent (line : Line) (handedOut : Option Client) :
    (line.release handedOut).sent = line.sent := by
  unfold release
  split
  · split <;> rfl
  · rfl

end QueryShell.Connection
