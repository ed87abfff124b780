import QueryShell.Proofs.Text.Base64
import QueryShell.Value.Tagged

namespace QueryShell.Value

def tags : List String :=
  ["@ref", "@obj", "@ts", "@date", "@set", "@bytes", "@query"]

def LooksTagged (pairs : List (Value × Value)) : Prop :=
  ∃ tag ∈ tags, ∃ v, pairs = [(.str tag, v)]

def isRefOrNull : Value → Bool
  | .null => true
  | .ref .. => true
  | _ => false

def partField (name : String) (part sent : Value) : List (Value × Value) :=
  if part.isNull then [] else [(.str name, sent)]

inductive Storable : Value → Prop where
  | null : Storable .null
  | bool (b : Bool) : Storable (.bool b)
  | int (n : Int) : Storable (.int n)
  | float (x : Float) : Storable (.float x)
  | str (s : Str) : Storable (.str s)
  | list {items : List Value} : (∀ v ∈ items, Storable v) → Storable (.list items)
  | dict {pairs : List (Value × Value)} : (∀ p ∈ pairs, ∃ key, p.1 = .str key) →
      (∀ p ∈ pairs, Storable p.2) → Storable (.dict pairs)
  | bytes (data : List UInt8) : Storable (.bytes data)
  | ref (id : Str) {collection database : Value} : collection.isRefOrNull = true →
      database.isRefOrNull = true → Storable collection → Storable database →
      Storable (.ref (.str id) collection database)
  | time (text : Str) : Storable (.time (.str text))
  | date (text : Str) : Storable (.date (.str text))
  | set {v : Value} : Storable v → Storable (.set v)
  | query {v : Value} : Storable v → Storable (.query v)

mutual

inductive TaggedAs : Value → Value → Prop where
  | null : TaggedAs .null .null
  | bool (b : Bool) : TaggedAs (.bool b) (.bool b)
  | int (n : Int) : TaggedAs (.int n) (.int n)
  | float (x : Float) : TaggedAs (.float x) (.float x)
  | str (s : Str) : TaggedAs (.str s) (.str s)
  | list {items sent : List Value} : AllTaggedAs items sent → TaggedAs (.list items) (.list sent)
  | plain {pairs sent : List (Value × Value)} : ¬ LooksTagged pairs → PairsTaggedAs pairs sent →
      TaggedAs (.dict pairs) (.dict sent)
  | wrapped {pairs sent : List (Value × Value)} : PairsTaggedAs pairs sent →
      TaggedAs (.dict pairs) (.dict [(.str "@obj", .dict sent)])
  | bytes (data : List UInt8) :
      TaggedAs (.bytes data)
        (.dict [(.str "@bytes", .str (Str.ofChars (Text.Base64.encode data)))])
  | ref (id : Str) {collection database parent scope : Value} :
      TaggedAs collection parent → TaggedAs database scope →
      TaggedAs (.ref (.str id) collection database)
        (.dict [(.str "@ref", .dict ((.str "id", .str id) ::
          (partField "collection" collection parent ++ partField "database" database scope)))])
  | time (text : Str) : TaggedAs (.time (.str text)) (.dict [(.str "@ts", .str text)])
  | date (text : Str) : TaggedAs (.date (.str text)) (.dict [(.str "@date", .str text)])
  | set {v j : Value} : TaggedAs v j → TaggedAs (.set v) (.dict [(.str "@set", j)])
  | query {v j : Value} : TaggedAs v j → TaggedAs (.query v) (.dict [(.str "@query", j)])

inductive AllTaggedAs : List Value → List Value → Prop where
  | nil : AllTaggedAs [] []
  | cons {v j : Value} {vs js : List Value} : TaggedAs v j → AllTaggedAs vs js →
      AllTaggedAs (v :: vs) (j :: js)

inductive PairsTaggedAs : List (Value × Value) → List (Value × Value) → Prop where
  | nil : PairsTaggedAs [] []
  | cons (key : Str) {v j : Value} {ps qs : List (Value × Value)} : TaggedAs v j →
      PairsTaggedAs ps qs → PairsTaggedAs ((.str key, v) :: ps) ((.str key, j) :: qs)

end

section

variable {v j : Value} {ps qs : List (Value × Value)}

theorem decode_untagged {tag : Str} (htag : tag ∉ tags.map Str.of) (v : Value) :
    decode (.dict [(.str tag, v)]) = do return .dict [(.str tag, ← decode v)] := by
  simp only [tags, List.map_cons, List.map_nil, List.mem_cons, List.not_mem_nil, not_or,
    or_false, ← Str.text?_eq_some_iff] at htag
  obtain ⟨href, hobj, hts, hdate, hset, hbytes, hquery⟩ := htag
  rw [decode]
  split <;> first | contradiction | rfl

theorem decode_dict (h : ¬ LooksTagged ps) :
    decode (.dict ps) = do return .dict (← decodePairs ps) := by
  by_cases hone : ∃ tag v, ps = [(.str tag, v)]
  · obtain ⟨tag, v, rfl⟩ := hone
    have htag : tag ∉ tags.map Str.of := by
      intro hmem
      obtain ⟨name, hname, rfl⟩ := List.mem_map.1 hmem
      exact h ⟨name, hname, v, rfl⟩
    rw [decode_untagged htag]
    cases hv : decode v <;> simp [decodePairs, hv] <;> rfl
  · rw [decode]
    exact fun tag v heq => hone ⟨tag, v, heq⟩

theorem bytesOfTagged_encode (data : List UInt8) :
    bytesOfTagged (.str (Str.ofChars (Text.Base64.encode data))) = .ok (.bytes data) := by
  have hascii : ((Text.Base64.encode data).all fun c => c.toNat < 0x80) = true := by
    simpa using Text.Base64.ascii_encode data
  simp only [bytesOfTagged, Str.chars?_ofChars, hascii, Text.Base64.decode_encode]
  rfl

theorem decodeField_of_ne {key : Str} {name : String} (h : key ≠ Str.of name) :
    decodeField name ((.str key, v) :: ps) = decodeField name ps := by
  rw [decodeField, if_neg h]

theorem decodeField_partField (name : String) (hv : decode j = .ok v)
    (hps : decodeField name ps = .ok .null) :
    decodeField name (partField name v j ++ ps) = .ok v := by
  cases v with
  | null => exact hps
  | _ => simpa [partField, isNull, decodeField] using hv

theorem decodeField_partField_of_ne {other name : String} (h : other ≠ name) (v j : Value)
    (ps : List (Value × Value)) :
    decodeField name (partField other v j ++ ps) = decodeField name ps := by
  cases v with
  | null => rfl
  | _ => exact decodeField_of_ne fun heq => h (Str.of_inj.1 heq)

theorem decode_ref (id : Str) {collection database parent scope : Value}
    (hparent : decode parent = .ok collection) (hscope : decode scope = .ok database) :
    decode (.dict [(.str "@ref", .dict ((.str "id", .str id) ::
        (partField "collection" collection parent ++ partField "database" database scope)))]) =
      .ok (.ref (.str id) collection database) := by
  have hnone : decodeField "collection" (partField "database" database scope ++ []) = .ok .null :=
    decodeField_partField_of_ne (by decide) database scope []
  have hcollection := decodeField_partField "collection" hparent hnone
  have hdatabase : decodeField "database" (partField "database" database scope ++ []) =
      .ok database := decodeField_partField "database" hscope rfl
  rw [List.append_nil] at hcollection hdatabase
  simp only [decode, decodeRef]
  rw [decodeField_of_ne (by decide), hcollection, decodeField_of_ne (by decide),
    decodeField_partField_of_ne (by decide), hdatabase]
  rfl

end

theorem PairsTaggedAs.looksTagged_of_sent {ps qs : List (Value × Value)}
    (h : PairsTaggedAs ps qs) (hqs : LooksTagged qs) : LooksTagged ps := by
  obtain ⟨tag, htag, j, rfl⟩ := hqs
  cases h with
  | cons key hv hrest =>
      cases hrest
      exact ⟨tag, htag, _, rfl⟩

mutual

theorem TaggedAs.decode_eq {v j : Value} (h : TaggedAs v j) : decode j = .ok v := by
  cases h with
  | null => rfl
  | bool b => rfl
  | int n => rfl
  | float x => rfl
  | str s => rfl
  | list hitems =>
      rw [decode, hitems.decodeAll_eq]
      rfl
  | plain hplain hpairs =>
      have hsent := fun hlooks => hplain (hpairs.looksTagged_of_sent hlooks)
      rw [decode_dict hsent, hpairs.decodePairs_eq]
      rfl
  | wrapped hpairs =>
      have hinside := hpairs.decodePairs_eq
      simp only [decode, decodeObject, hinside]
      rfl
  | bytes data => exact bytesOfTagged_encode data
  | ref id hparent hscope => exact decode_ref id hparent.decode_eq hscope.decode_eq
  | time text => rfl
  | date text => rfl
  | set hv =>
      rw [decode, hv.decode_eq]
      rfl
  | query hv =>
      rw [decode, hv.decode_eq]
      rfl

theorem AllTaggedAs.decodeAll_eq {vs js : List Value} (h : AllTaggedAs vs js) :
    decodeAll js = .ok vs := by
  cases h with
  | nil => rfl
  | cons hv hvs =>
      rw [decodeAll, hv.decode_eq, hvs.decodeAll_eq]
      rfl

theorem PairsTaggedAs.decodePairs_eq {ps qs : List (Value × Value)} (h : PairsTaggedAs ps qs) :
    decodePairs qs = .ok ps := by
  cases h with
  | nil => rfl
  | cons key hv hps =>
      rw [decodePairs, hv.decode_eq, hps.decodePairs_eq]
      rfl

end

theorem exists_allTaggedAs {vs : List Value} (h : ∀ v ∈ vs, ∃ j, TaggedAs v j) :
    ∃ js, AllTaggedAs vs js := by
  induction vs with
  | nil => exact ⟨[], .nil⟩
  | cons v vs ih =>
      obtain ⟨j, hj⟩ := h v (by simp)
      obtain ⟨js, hjs⟩ := ih fun w hw => h w (by simp [hw])
      exact ⟨j :: js, .cons hj hjs⟩

theorem exists_pairsTaggedAs {ps : List (Value × Value)} (hkeys : ∀ p ∈ ps, ∃ key, p.1 = .str key)
    (h : ∀ p ∈ ps, ∃ j, TaggedAs p.2 j) : ∃ qs, PairsTaggedAs ps qs := by
  induction ps with
  | nil => exact ⟨[], .nil⟩
  | cons p ps ih =>
      obtain ⟨k, v⟩ := p
      obtain ⟨key, rfl⟩ := hkeys (k, v) (by simp)
      obtain ⟨j, hj⟩ := h (.str key, v) (by simp)
      obtain ⟨qs, hqs⟩ := ih (fun p hp => hkeys p (by simp [hp])) fun p hp => h p (by simp [hp])
      exact ⟨(.str key, j) :: qs, .cons key hj hqs⟩

theorem Storable.exists_taggedAs {v : Value} (h : Storable v) : ∃ j, TaggedAs v j := by
  induction h with
  | null => exact ⟨_, .null⟩
  | bool b => exact ⟨_, .bool b⟩
  | int n => exact ⟨_, .int n⟩
  | float x => exact ⟨_, .float x⟩
  | str s => exact ⟨_, .str s⟩
  | list _ ih =>
      obtain ⟨js, hjs⟩ := exists_allTaggedAs ih
      exact ⟨_, .list hjs⟩
  | dict hkeys _ ih =>
      obtain ⟨qs, hqs⟩ := exists_pairsTaggedAs hkeys ih
      exact ⟨_, .wrapped hqs⟩
  | bytes data => exact ⟨_, .bytes data⟩
  | ref id _ _ _ _ ihparent ihscope =>
      obtain ⟨parent, hparent⟩ := ihparent
      obtain ⟨scope, hscope⟩ := ihscope
      exact ⟨_, .ref id hparent hscope⟩
  | time text => exact ⟨_, .time text⟩
  | date text => exact ⟨_, .date text⟩
  | set _ ih =>
      obtain ⟨j, hj⟩ := ih
      exact ⟨_, .set hj⟩
  | query _ ih =>
      obtain ⟨j, hj⟩ := ih
      exact ⟨_, .query hj⟩

theorem Storable.decode_tagged {v : Value} (h : Storable v) :
    (∃ j, TaggedAs v j) ∧ ∀ j, TaggedAs v j → decode j = .ok v :=
  ⟨h.exists_taggedAs, fun _ hj => hj.decode_eq⟩

def lookalikes : Value :=
  .list [.dict [(.str "@date", .str "today")],
    .dict [(.str "@ref", .bytes [251, 255]), (.str "id", .str "7")],
    .ref (.str "7") (.ref (.str "users") .null .null) .null]

def sentLookalikes : Value :=
  .list [.dict [(.str "@obj", .dict [(.str "@date", .str "today")])],
    .dict [(.str "@ref", .dict [(.str "@bytes", .str "-_8=")]), (.str "id", .str "7")],
    .dict [(.str "@ref", .dict [(.str "id", .str "7"),
      (.str "collection", .dict [(.str "@ref", .dict [(.str "id", .str "users")])])])]]

theorem decode_sentLookalikes :
    Storable lookalikes ∧ TaggedAs lookalikes sentLookalikes ∧
      decode sentLookalikes = .ok lookalikes := by
  have hdate : Storable (.dict [(.str "@date", .str "today")]) :=
    .dict (by simp) (by simpa using Storable.str "today")
  have hpair : Storable (.dict [(.str "@ref", .bytes [251, 255]), (.str "id", .str "7")]) :=
    .dict (by simp) (by simpa using ⟨Storable.bytes [251, 255], Storable.str "7"⟩)
  have href : Storable (.ref (.str "7") (.ref (.str "users") .null .null) .null) :=
    .ref "7" rfl rfl (.ref "users" rfl rfl .null .null) .null
  have hstorable : Storable lookalikes := .list (by simpa using ⟨hdate, hpair, href⟩)
  have hplain : ¬ LooksTagged [(.str "@ref", .bytes [251, 255]), (.str "id", .str "7")] := by
    rintro ⟨tag, -, v, heq⟩
    exact absurd (congrArg List.length heq) (by simp)
  have hsent : TaggedAs lookalikes sentLookalikes :=
    .list (.cons (.wrapped (.cons "@date" (.str "today") .nil))
      (.cons (.plain hplain (.cons "@ref" (.bytes [251, 255]) (.cons "id" (.str "7") .nil)))
        (.cons (.ref "7" (.ref "users" .null .null) .null) .nil)))
  exact ⟨hstorable, hsent, hstorable.decode_tagged.2 _ hsent⟩

end QueryShell.Value
