import QueryShell.Json.Bytes
import QueryShell.Json.Writer
import QueryShell.Proofs.Computation
import QueryShell.Proofs.Value.TextKeys

namespace QueryShell.Json

open Value (textKeyed putText)

inductive Document (leaf : Value → Prop) : Value → Prop where
  | null : Document leaf .null
  | bool (b : Bool) : Document leaf (.bool b)
  | int {n : Int} : leaf (.int n) → Document leaf (.int n)
  | float {x : Float} : leaf (.float x) → Document leaf (.float x)
  | str {s : Str} : leaf (.str s) → Document leaf (.str s)
  | list {items : List Value} : (∀ v ∈ items, Document leaf v) → Document leaf (.list items)
  | dict {pairs : List (Str × Value)} : (pairs.map Prod.fst).Nodup →
      (∀ p ∈ pairs, leaf (.str p.1)) → (∀ p ∈ pairs, Document leaf p.2) →
      Document leaf (.dict (textKeyed pairs))

def Finite : Value → Prop
  | .float x => Decimal.isFinite x = true
  | _ => True

def Short : Value → Prop
  | .int n => n.natAbs < Decimal.tenTo Decimal.digitLimit
  | _ => True

def Whole : Value → Prop
  | .str s => s.IsWhole
  | _ => True

def Encodable (v : Value) : Prop :=
  Short v ∧ Whole v

def AnyLeaf (_ : Value) : Prop :=
  True

section

variable {leaf : Value → Prop} {v : Value}

theorem document_list_iff {items : List Value} :
    Document leaf (.list items) ↔ ∀ v ∈ items, Document leaf v := by
  constructor
  · intro h
    cases h with
    | list hitems => exact hitems
  · exact .list

theorem textKeyed_inj {pairs entries : List (Str × Value)}
    (h : textKeyed pairs = textKeyed entries) : pairs = entries := by
  induction pairs generalizing entries with
  | nil => exact (List.map_eq_nil_iff.1 h.symm).symm
  | cons p pairs ih =>
      cases entries with
      | nil => cases h
      | cons q entries =>
          obtain ⟨hfirst, hrest⟩ := List.cons.inj h
          obtain ⟨hkey, hvalue⟩ := Prod.mk.inj hfirst
          rw [Prod.ext (Value.str.inj hkey) hvalue, ih hrest]

theorem document_dict_iff {pairs : List (Str × Value)} :
    Document leaf (.dict (textKeyed pairs)) ↔ (pairs.map Prod.fst).Nodup ∧
      (∀ p ∈ pairs, leaf (.str p.1)) ∧ ∀ p ∈ pairs, Document leaf p.2 := by
  constructor
  · intro h
    generalize hpairs : textKeyed pairs = sent at h
    cases h with
    | dict hkeys hleaves hvalues =>
        cases textKeyed_inj hpairs
        exact ⟨hkeys, hleaves, hvalues⟩
  · rintro ⟨hkeys, hleaves, hvalues⟩
    exact .dict hkeys hleaves hvalues

theorem Document.pair {key : Str} (hkey : leaf (.str key)) (h : Document leaf v) :
    Document leaf (.dict [(.str key, v)]) := by
  have hkeys : ([(key, v)].map Prod.fst).Nodup := by simp
  exact .dict hkeys (by simpa using hkey) (by simpa using h)

theorem field?_textKeyed (pairs : List (Str × Value)) (name : String) :
    Value.field? (textKeyed pairs) name = pairs.lookup (Str.of name) := by
  induction pairs with
  | nil => rfl
  | cons p pairs ih =>
      obtain ⟨key, v⟩ := p
      by_cases hkey : key = Str.of name
      · subst hkey
        simp [Value.field?, textKeyed]
      · have hne : (Str.of name == key) = false := by simpa using Ne.symm hkey
        have hne' : (key == Str.of name) = false := by simpa using hkey
        rw [List.lookup_cons, hne, ← ih]
        simp [Value.field?, textKeyed, hne']

theorem lookup_eq_some_iff {pairs : List (Str × Value)} (hkeys : (pairs.map Prod.fst).Nodup)
    {name : Str} : pairs.lookup name = some v ↔ (name, v) ∈ pairs := by
  induction pairs with
  | nil => simp
  | cons p pairs ih =>
      obtain ⟨key, w⟩ := p
      obtain ⟨hnew, hrest⟩ := List.nodup_cons.1 hkeys
      by_cases hkey : key = name
      · subst hkey
        have hother : (key, v) ∉ pairs := fun hmem => hnew (List.mem_map.2 ⟨_, hmem, rfl⟩)
        simp [hother, eq_comm]
      · have hne : (name == key) = false := by simpa using Ne.symm hkey
        rw [List.lookup_cons, hne, ih hrest]
        simp [Ne.symm hkey]

theorem Document.field?_eq_some_iff {pairs : List (Value × Value)}
    (h : Document leaf (.dict pairs)) {name : String} :
    Value.field? pairs name = some v ↔ (.str name, v) ∈ pairs := by
  cases h with
  | @dict entries hkeys _ _ =>
      rw [field?_textKeyed, lookup_eq_some_iff hkeys]
      simp [textKeyed]

theorem Document.value {pairs : List (Value × Value)} (h : Document leaf (.dict pairs))
    {p : Value × Value} (hp : p ∈ pairs) : Document leaf p.2 := by
  cases h with
  | dict _ _ hvalues =>
      obtain ⟨q, hq, rfl⟩ := List.mem_map.1 hp
      exact hvalues q hq

end

theorem document_word {w : String × Value} (h : w ∈ words) : Document AnyLeaf w.2 := by
  simp only [words, List.mem_cons, List.not_mem_nil, or_false] at h
  rcases h with rfl | rfl | rfl | rfl | rfl | rfl
  · exact .null
  · exact .bool true
  · exact .bool false
  all_goals exact .float trivial

theorem document_readWord? {here : Cursor} {found : Value × Cursor}
    (h : readWord? here = some found) : Document AnyLeaf found.1 := by
  obtain ⟨w, hw, rfl⟩ := Option.map_eq_some_iff.1 h
  exact document_word (List.mem_of_find?_eq_some hw)

theorem document_numberValue {offset : Nat} {plain : Bool} {token : List Char} {v : Value}
    (h : numberValue offset plain token = .ok v) : Document AnyLeaf v := by
  unfold numberValue at h
  split at h
  · split at h
    · cases h
      exact .int trivial
    · cases h
  · split at h
    · cases h
      exact .float trivial
    · cases h

theorem document_readNumber {here next : Cursor} {v : Value}
    (h : readNumber here = .ok (v, next)) : Document AnyLeaf v := by
  unfold readNumber at h
  dsimp only at h
  split at h
  · cases h
  · obtain ⟨w, hw, hpair⟩ := bind_ok.1 h
    cases hpair
    exact document_numberValue hw

mutual

theorem document_readValue {fuel : Nat} {here next : Cursor} {v : Value}
    (h : readValue fuel here = .ok (v, next)) : Document AnyLeaf v := by
  cases fuel with
  | zero => cases h
  | succ fuel =>
      unfold readValue at h
      split at h
      · obtain ⟨⟨s, after⟩, -, hpair⟩ := bind_ok.1 h
        cases hpair
        exact .str trivial
      · dsimp only at h
        split at h
        · cases h
          have hnone : Document AnyLeaf (.dict (textKeyed [])) := .dict .nil (by simp) (by simp)
          exact hnone
        · obtain ⟨⟨pairs, after⟩, hpairs, hpair⟩ := bind_ok.1 h
          cases hpair
          obtain ⟨hkeys, hvalues⟩ := document_readPairs (by simp) (by simp) hpairs
          exact .dict hkeys (fun _ _ => trivial) hvalues
      · dsimp only at h
        split at h
        · cases h
          exact .list (by simp)
        · obtain ⟨⟨items, after⟩, hitems, hpair⟩ := bind_ok.1 h
          cases hpair
          exact .list (document_readItems hitems)
      · split at h
        · next hword =>
            cases h
            exact document_readWord? hword
        · exact document_readNumber h

theorem document_readItems {fuel : Nat} {here next : Cursor} {vs : List Value}
    (h : readItems fuel here = .ok (vs, next)) : ∀ v ∈ vs, Document AnyLeaf v := by
  cases fuel with
  | zero => cases h
  | succ fuel =>
      unfold readItems at h
      obtain ⟨⟨v, after⟩, hv, h⟩ := bind_ok.1 h
      have hfirst := document_readValue hv
      dsimp only at h
      split at h
      · cases h
        simpa using hfirst
      · obtain ⟨⟨more, last⟩, hmore, hpair⟩ := bind_ok.1 h
        cases hpair
        exact List.forall_mem_cons.2 ⟨hfirst, document_readItems hmore⟩
      · cases h

theorem document_readPairs {fuel : Nat} {here next : Cursor} {pairs found : List (Str × Value)}
    (hkeys : (pairs.map Prod.fst).Nodup) (hvalues : ∀ p ∈ pairs, Document AnyLeaf p.2)
    (h : readPairs fuel pairs here = .ok (found, next)) :
    (found.map Prod.fst).Nodup ∧ ∀ p ∈ found, Document AnyLeaf p.2 := by
  cases fuel with
  | zero => cases h
  | succ fuel =>
      unfold readPairs at h
      split at h
      · obtain ⟨⟨key, after⟩, -, h⟩ := bind_ok.1 h
        dsimp only at h
        split at h
        · obtain ⟨⟨v, after⟩, hv, h⟩ := bind_ok.1 h
          have hput : ∀ p ∈ putText pairs key v, Document AnyLeaf p.2 := by
            intro p hp
            rcases Value.mem_putText hp with hold | rfl
            · exact hvalues p hold
            · exact document_readValue hv
          have hkeys' : ((putText pairs key v).map Prod.fst).Nodup := Value.nodup_putText hkeys
          dsimp only at h
          split at h
          · cases h
            exact ⟨hkeys', hput⟩
          · exact document_readPairs hkeys' hput h
          · cases h
        · cases h
      · cases h

end

theorem document_read {text : Str} {v : Value} (h : read text = .ok v) :
    Document AnyLeaf v := by
  unfold read at h
  split at h
  · cases h
  · obtain ⟨⟨w, after⟩, hread, h⟩ := bind_ok.1 h
    dsimp only at h
    split at h
    · cases h
      exact document_readValue hread
    · cases h

theorem document_readBytes? {bytes : List UInt8} {v : Value} (h : readBytes? bytes = some v) :
    Document AnyLeaf v := by
  unfold readBytes? at h
  split at h
  · cases h
  · exact document_read (ok_of_mem_toOption h)

theorem returns_writeItems_iff (vs : List Value) :
    Returns (writeItems vs) ↔ ∀ v ∈ vs, Returns (writeValue v) := by
  induction vs with
  | nil => simp [writeItems, returns_ok]
  | cons v vs ih =>
      cases vs with
      | nil => simp [writeItems]
      | cons w vs =>
          rw [List.forall_mem_cons, ← ih]
          exact returns_map₂

theorem returns_writePairs_iff (pairs : List (Str × Value)) :
    Returns (writePairs (textKeyed pairs)) ↔ ∀ p ∈ pairs, Returns (writeValue p.2) := by
  induction pairs with
  | nil => simp [writePairs, textKeyed, returns_ok]
  | cons p pairs ih =>
      obtain ⟨key, v⟩ := p
      cases pairs with
      | nil =>
          simp only [List.mem_singleton, forall_eq]
          exact returns_map (f := fun text => writeString key ++ .char ':' :: text)
      | cons q pairs =>
          rw [List.forall_mem_cons, ← ih]
          exact returns_map₂
            (f := fun text more => writeString key ++ .char ':' :: (text ++ .char ',' :: more))

theorem returns_writeInteger_iff {n : Int} : Returns (writeInteger n) ↔ Short (.int n) := by
  unfold writeInteger
  split
  · next h => exact iff_of_true (returns_ok _) h
  · next h => exact iff_of_false (not_returns_error _) h

theorem Document.returns_writeValue_iff {v : Value} (h : Document Finite v) :
    Returns (writeValue v) ↔ Document Short v := by
  induction h with
  | null => exact iff_of_true (returns_ok _) .null
  | bool b => exact iff_of_true (returns_ok _) (.bool b)
  | int _ =>
      refine returns_writeInteger_iff.trans ⟨.int, fun h => ?_⟩
      cases h with
      | int hn => exact hn
  | @float x hx =>
      have hfinite : Decimal.isFinite x = true := hx
      refine iff_of_true ?_ (.float trivial)
      rw [writeValue, writeFloat, if_pos hfinite]
      exact returns_ok _
  | str _ => exact iff_of_true (returns_ok _) (.str trivial)
  | list hitems ih =>
      rw [document_list_iff, writeValue, returns_map, returns_writeItems_iff]
      exact forall₂_congr ih
  | dict hkeys _ _ ih =>
      rw [document_dict_iff, writeValue, returns_map, returns_writePairs_iff]
      simp only [hkeys, true_and]
      exact (forall₂_congr ih).trans (and_iff_right fun _ _ => trivial).symm

theorem Document.returns_write_iff {v : Value} (h : Document Finite v) :
    Returns (write v) ↔ Document Short v :=
  h.returns_writeValue_iff

theorem isWhole_escapePoint {p : CodePoint} : (escapePoint p).IsWhole ↔ ∃ c, p = .char c := by
  cases p with
  | char c => exact iff_of_true (Str.isWhole_ofChars _) ⟨c, rfl⟩
  | surrogate index => simp [escapePoint, Str.IsWhole]

theorem isWhole_writeString {s : Str} : (writeString s).IsWhole ↔ s.IsWhole := by
  have hbody : Str.IsWhole (s.flatMap escapePoint) ↔ s.IsWhole := by
    induction s with
    | nil => simp
    | cons p s ih =>
        rw [List.flatMap_cons, Str.isWhole_append, isWhole_escapePoint, ih]
        simp [Str.IsWhole]
  rw [writeString, Str.isWhole_char, Str.isWhole_append, hbody]
  simp [Str.IsWhole]

theorem isWhole_writeItems {vs : List Value}
    (h : ∀ v ∈ vs, ∀ text, writeValue v = .ok text → (text.IsWhole ↔ Document Whole v))
    {text : Str} (htext : writeItems vs = .ok text) :
    text.IsWhole ↔ ∀ v ∈ vs, Document Whole v := by
  induction vs generalizing text with
  | nil => cases htext; simp [Str.IsWhole]
  | cons v vs ih =>
      cases vs with
      | nil => simpa using h v (by simp) text htext
      | cons w vs =>
          obtain ⟨first, hfirst, htext⟩ := bind_ok.1 htext
          obtain ⟨more, hmore, htext⟩ := bind_ok.1 htext
          cases htext
          rw [Str.isWhole_append, Str.isWhole_char, h v (by simp) first hfirst,
            ih (fun u hu => h u (List.mem_cons_of_mem _ hu)) hmore, ← List.forall_mem_cons]

theorem isWhole_writePairs {pairs : List (Str × Value)}
    (h : ∀ p ∈ pairs, ∀ text, writeValue p.2 = .ok text → (text.IsWhole ↔ Document Whole p.2))
    {text : Str} (htext : writePairs (textKeyed pairs) = .ok text) :
    text.IsWhole ↔ ∀ p ∈ pairs, p.1.IsWhole ∧ Document Whole p.2 := by
  induction pairs generalizing text with
  | nil => cases htext; simp [Str.IsWhole]
  | cons p pairs ih =>
      cases pairs with
      | nil =>
          obtain ⟨key, hkey, htext⟩ := bind_ok.1 htext
          obtain ⟨value, hvalue, htext⟩ := bind_ok.1 htext
          cases hkey
          cases htext
          rw [Str.isWhole_append, Str.isWhole_char, isWhole_writeString,
            h p (by simp) value hvalue]
          simp
      | cons q pairs =>
          obtain ⟨key, hkey, htext⟩ := bind_ok.1 htext
          obtain ⟨value, hvalue, htext⟩ := bind_ok.1 htext
          obtain ⟨more, hmore, htext⟩ := bind_ok.1 htext
          cases hkey
          cases htext
          rw [Str.isWhole_append, Str.isWhole_char, Str.isWhole_append, Str.isWhole_char,
            isWhole_writeString, h p (by simp) value hvalue,
            ih (fun r hr => h r (List.mem_cons_of_mem _ hr)) hmore, ← and_assoc]
          simp only [List.forall_mem_cons]

theorem isWhole_writeInteger {n : Int} {text : Str} (h : writeInteger n = .ok text) :
    text.IsWhole := by
  unfold writeInteger at h
  split at h
  · cases h
    exact Str.isWhole_ofChars _
  · cases h

theorem isWhole_writeFloat {x : Float} {text : Str} (h : writeFloat x = .ok text) :
    text.IsWhole := by
  unfold writeFloat at h
  split at h
  · cases h
    exact Str.isWhole_ofChars _
  · cases h

theorem Document.isWhole_iff {leaf : Value → Prop} {v : Value} {text : Str} (h : Document leaf v)
    (htext : writeValue v = .ok text) : text.IsWhole ↔ Document Whole v := by
  induction h generalizing text with
  | null => cases htext; exact iff_of_true (Str.isWhole_ofChars _) .null
  | bool b => cases htext; exact iff_of_true (Str.isWhole_ofChars _) (.bool b)
  | int _ => exact iff_of_true (isWhole_writeInteger htext) (.int trivial)
  | float _ => exact iff_of_true (isWhole_writeFloat htext) (.float trivial)
  | @str s _ =>
      cases htext
      refine isWhole_writeString.trans ⟨fun h => .str h, fun h => ?_⟩
      cases h with
      | str hs => exact hs
  | list _ ih =>
      obtain ⟨inner, hinner, htext⟩ := bind_ok.1 htext
      cases htext
      rw [Str.isWhole_char, Str.isWhole_append, document_list_iff,
        isWhole_writeItems (fun v hv text => ih v hv) hinner]
      simp [Str.IsWhole]
  | dict hkeys _ _ ih =>
      obtain ⟨inner, hinner, htext⟩ := bind_ok.1 htext
      cases htext
      rw [Str.isWhole_char, Str.isWhole_append, document_dict_iff,
        isWhole_writePairs (fun p hp text => ih p hp) hinner]
      simp [Str.IsWhole, Whole, hkeys, imp_and, forall_and]

theorem encodable_eq_ok_iff {s : Str} {text : String} :
    Text.encodable s = .ok text ↔ s = Str.of text := by
  unfold Text.encodable
  split
  · next t ht =>
      rw [Str.text?_eq_some_iff] at ht
      subst ht
      rw [Except.ok.injEq, Str.of_inj]
  · next hnone =>
      refine iff_of_false nofun ?_
      rintro rfl
      rw [Str.text?_of] at hnone
      cases hnone

theorem returns_encodable_iff {s : Str} : Returns (Text.encodable s) ↔ s.IsWhole := by
  rw [Str.isWhole_iff]
  constructor
  · rintro ⟨text, htext⟩
    exact ⟨text.toList, encodable_eq_ok_iff.1 htext⟩
  · rintro ⟨cs, rfl⟩
    exact ⟨String.ofList cs, encodable_eq_ok_iff.2 (Str.of_ofList cs).symm⟩

theorem Document.encodable_iff {v : Value} :
    Document Encodable v ↔ Document Short v ∧ Document Whole v := by
  constructor
  · intro h
    induction h with
    | null => exact ⟨.null, .null⟩
    | bool b => exact ⟨.bool b, .bool b⟩
    | int h => exact ⟨.int h.1, .int h.2⟩
    | float h => exact ⟨.float h.1, .float h.2⟩
    | str h => exact ⟨.str h.1, .str h.2⟩
    | list _ ih => exact ⟨.list fun v hv => (ih v hv).1, .list fun v hv => (ih v hv).2⟩
    | dict hkeys hleaves _ ih =>
        exact ⟨.dict hkeys (fun p hp => (hleaves p hp).1) fun p hp => (ih p hp).1,
          .dict hkeys (fun p hp => (hleaves p hp).2) fun p hp => (ih p hp).2⟩
  · rintro ⟨hshort, hwhole⟩
    induction hshort with
    | null => exact .null
    | bool b => exact .bool b
    | int h => exact .int ⟨h, trivial⟩
    | float h => exact .float ⟨h, trivial⟩
    | str h => cases hwhole with
      | str hs => exact .str ⟨h, hs⟩
    | list _ ih => exact .list fun v hv => ih v hv (document_list_iff.1 hwhole v hv)
    | dict hkeys _ _ ih =>
        obtain ⟨-, hleaves, hvalues⟩ := document_dict_iff.1 hwhole
        exact .dict hkeys (fun p hp => ⟨trivial, hleaves p hp⟩) fun p hp => ih p hp (hvalues p hp)

theorem Document.returns_encoded_iff {v : Value} (h : Document Finite v) :
    Returns (write v >>= Text.encodable) ↔ Document Encodable v := by
  rw [encodable_iff, ← h.returns_write_iff]
  constructor
  · rintro ⟨body, hbody⟩
    obtain ⟨text, htext, hencoded⟩ := bind_ok.1 hbody
    exact ⟨⟨text, htext⟩, (h.isWhole_iff htext).1 (returns_encodable_iff.1 ⟨body, hencoded⟩)⟩
  · rintro ⟨⟨text, htext⟩, hwhole⟩
    obtain ⟨body, hencoded⟩ := returns_encodable_iff.2 ((h.isWhole_iff htext).2 hwhole)
    exact ⟨body, bind_ok.2 ⟨text, htext, hencoded⟩⟩

end QueryShell.Json
