import QueryShell.Config.Endpoint
import QueryShell.Proofs.Computation

namespace QueryShell.Config

open Yaml (Contents Data Document Scalar)

inductive Search (d : Document) (name : Data) : Contents → Bool → Prop where
  | key {entries : List (Scalar × Data)} {key : Scalar} {found : Bool} :
      d.contents name = .scalar key → (found = true ↔ ∃ e ∈ entries, e.1.equal key = true) →
      Search d name (.dict entries) found
  | element {elements : List Scalar} {key : Scalar} {found : Bool} :
      d.contents name = .scalar key → (found = true ↔ ∃ e ∈ elements, e.equal key = true) →
      Search d name (.set elements) found
  /-- A set may be looked up in a set, and is no element of it. -/
  | set {elements others : List Scalar} :
      d.contents name = .set others → Search d name (.set elements) false
  /-- Items are compared up to the first that is equal, and a comparison may have no end. -/
  | item {before after : List Data} {item : Data} :
      (∀ x ∈ before, d.equal x name = .ok false) → d.equal item name = .ok true →
      Search d name (.list (before ++ item :: after)) true
  | noItem {items : List Data} :
      (∀ x ∈ items, d.equal x name = .ok false) → Search d name (.list items) false
  | pairs (items : List (Data × Data)) : Search d name (.pairs items) false
  | text {part s : Str} {found : Bool} :
      d.contents name = .scalar (.text part) → (found = true ↔ part <:+: s) →
      Search d name (.scalar (.text s)) found
  | bytes {part data : List UInt8} {found : Bool} :
      d.contents name = .scalar (.bytes part) → (found = true ↔ part <:+: data) →
      Search d name (.scalar (.bytes data)) found
  | byte {data : List UInt8} {key : Scalar} {b : UInt8} {found : Bool} :
      d.contents name = .scalar key → position? key = some (b.toNat : Int) →
      (found = true ↔ b ∈ data) → Search d name (.scalar (.bytes data)) found

inductive At {α : Type} (items : List α) : Int → α → Prop where
  | front {n : Nat} {item : α} : items[n]? = some item → At items n item
  | back {n : Nat} {item : α} : items.reverse[n]? = some item → At items (-(n + 1)) item

inductive Holds (d : Document) (name : Data) : Contents → Data → Prop where
  | key {entries : List (Scalar × Data)} {key : Scalar} {entry : Data} :
      d.contents name = .scalar key → Yaml.under? entries key = some entry →
      Holds d name (.dict entries) entry
  | item {items : List Data} {key : Scalar} {n : Int} {entry : Data} :
      d.contents name = .scalar key → position? key = some n →
      -positionBound ≤ n → n < positionBound → At items n entry →
      Holds d name (.list items) entry
  | byte {data : List UInt8} {key : Scalar} {n : Int} {b : UInt8} :
      d.contents name = .scalar key → position? key = some n →
      -positionBound ≤ n → n < positionBound → At data n b →
      Holds d name (.scalar (.bytes data)) (.scalar (.int b.toNat))

theorem isInside_iff {α : Type} [BEq α] [LawfulBEq α] {part items : List α} :
    isInside part items = true ↔ part <:+: items := by
  induction items with
  | nil => simp [isInside]
  | cons x items ih =>
      rw [isInside, Bool.or_eq_true, ih, List.isPrefixOf_iff_prefix, List.infix_cons_iff]

theorem keyOf_ok {d : Document} {name : Data} {key : Scalar} :
    keyOf d name = .ok key ↔ d.contents name = .scalar key := by
  unfold keyOf
  cases d.contents name with
  | scalar s => simp
  | _ => simp

theorem under?_isSome {α : Type} {entries : List (Scalar × α)} {key : Scalar} :
    (Yaml.under? entries key).isSome = true ↔ ∃ e ∈ entries, e.1.equal key = true := by
  rw [Yaml.under?, Option.isSome_map, List.find?_isSome]

theorem byte_of_position {n : Int} (hlow : 0 ≤ n) (hhigh : n < 256) :
    n = ((UInt8.ofNat n.toNat).toNat : Int) := by
  have hn : n.toNat < 256 := by omega
  have hbyte : (UInt8.ofNat n.toNat).toNat = n.toNat := by simp [Nat.mod_eq_of_lt hn]
  omega

theorem isInBytes_byte (data : List UInt8) {key : Scalar} {b : UInt8}
    (h : position? key = some (b.toNat : Int)) :
    isInBytes data (.scalar key) = .ok (data.contains b) := by
  have hrange : (0 ≤ (b.toNat : Int) && (b.toNat : Int) < 256) = true := by
    have := b.toNat_lt
    simp only [Bool.and_eq_true, decide_eq_true_eq]
    omega
  cases key with
  | int n =>
      cases h
      simp only [isInBytes, position?, hrange, if_true, Int.toNat_natCast, UInt8.ofNat_toNat]
  | bool c =>
      simp only [isInBytes, h, hrange, if_true, Int.toNat_natCast, UInt8.ofNat_toNat]
  | _ => cases h

theorem part_or_byte {data : List UInt8} {name : Contents} {found : Bool}
    (h : isInBytes data name = .ok found) :
    (∃ part, name = .scalar (.bytes part)) ∨
      ∃ key, ∃ b : UInt8, name = .scalar key ∧ position? key = some (b.toNat : Int) := by
  unfold isInBytes at h
  split at h
  · next part => exact .inl ⟨part, rfl⟩
  · next key hpart =>
    split at h
    · next n hposition =>
      split at h
      · next hrange =>
        simp only [Bool.and_eq_true, decide_eq_true_eq] at hrange
        have hn := byte_of_position hrange.1 hrange.2
        exact .inr ⟨key, UInt8.ofNat n.toNat, rfl, by rw [← hn]; exact hposition⟩
      · cases h
    · cases h
  · cases h

theorem isInText_ok {s : Str} {name : Contents} {found : Bool} :
    isInText s name = .ok found ↔
      ∃ part, name = .scalar (.text part) ∧ isInside part s = found := by
  unfold isInText
  split
  · simp
  · next hpart =>
    constructor
    · intro h; cases h
    · rintro ⟨part, hname, -⟩
      exact (hpart part hname).elim

section

variable {d : Document} {name : Data} {endpoints : Contents} {found : Bool}

theorem search_of_isAmong (h : isAmong d endpoints name = .ok found) :
    Search d name endpoints found := by
  cases endpoints with
  | dict entries =>
      obtain ⟨key, hkey, hfound⟩ := bind_ok.1 h
      cases hfound
      exact .key (keyOf_ok.1 hkey) under?_isSome
  | set elements =>
      simp only [isAmong] at h
      split at h
      · next others hset =>
        cases h
        exact .set hset
      · obtain ⟨key, hkey, rfl⟩ := map_ok.1 h
        exact .element (keyOf_ok.1 hkey) List.any_eq_true
  | list items =>
      cases found with
      | true =>
          obtain ⟨before, item, after, rfl, hbefore, hitem⟩ := anyM_true.1 h
          exact .item hbefore hitem
      | false => exact .noItem (anyM_false.1 h)
  | pairs items =>
      cases h
      exact .pairs items
  | scalar s =>
      cases s with
      | text s =>
          obtain ⟨part, hpart, rfl⟩ := isInText_ok.1 h
          exact .text hpart isInside_iff
      | bytes data =>
          simp only [isAmong] at h
          rcases part_or_byte h with ⟨part, hpart⟩ | ⟨key, b, hkey, hb⟩
          · rw [hpart] at h
            cases h
            exact .bytes hpart isInside_iff
          · rw [hkey, isInBytes_byte data hb] at h
            cases h
            exact .byte hkey hb List.contains_iff_mem
      | _ => cases h

theorem Search.isAmong (h : Search d name endpoints found) :
    isAmong d endpoints name = .ok found := by
  cases h with
  | key hkey hfound =>
      exact bind_ok.2 ⟨_, keyOf_ok.2 hkey,
        congrArg Except.ok (Bool.eq_iff_iff.2 (under?_isSome.trans hfound.symm))⟩
  | element hkey hfound =>
      simp only [Config.isAmong, hkey]
      exact map_ok.2 ⟨_, keyOf_ok.2 hkey, Bool.eq_iff_iff.2 (List.any_eq_true.trans hfound.symm)⟩
  | set hset => simp only [Config.isAmong, hset]
  | item hbefore hitem => exact anyM_true.2 ⟨_, _, _, rfl, hbefore, hitem⟩
  | noItem hitems => exact anyM_false.2 hitems
  | pairs items => rfl
  | text hpart hfound =>
      exact isInText_ok.2 ⟨_, hpart, Bool.eq_iff_iff.2 (isInside_iff.trans hfound.symm)⟩
  | bytes hpart hfound =>
      simp only [Config.isAmong, hpart]
      exact congrArg Except.ok (Bool.eq_iff_iff.2 (isInside_iff.trans hfound.symm))
  | @byte data _ _ _ hkey hb hfound =>
      simp only [Config.isAmong, hkey, isInBytes_byte data hb]
      exact congrArg Except.ok (Bool.eq_iff_iff.2 (List.contains_iff_mem.trans hfound.symm))

theorem isAmong_ok : isAmong d endpoints name = .ok found ↔ Search d name endpoints found :=
  ⟨search_of_isAmong, Search.isAmong⟩

end

theorem at_iff {α : Type} {items : List α} {n : Int} {item : α} :
    At items n item ↔
      0 ≤ (if n < 0 then n + items.length else n) ∧
        items[(if n < 0 then n + items.length else n).toNat]? = some item := by
  constructor
  · intro h
    cases h with
    | @front n _ h =>
        rw [if_neg (by omega)]
        exact ⟨by omega, h⟩
    | @back n _ h =>
        have hn : n < items.length := by
          have := (List.getElem?_eq_some_iff.1 h).1
          simpa using this
        rw [List.getElem?_reverse hn] at h
        rw [if_pos (by omega), ← h]
        refine ⟨by omega, ?_⟩
        congr 1
        omega
  · rintro ⟨hindex, h⟩
    by_cases hneg : n < 0
    · rw [if_pos hneg] at hindex h
      have hn : n = -(((-n - 1).toNat : Int) + 1) := by omega
      rw [hn]
      refine .back ?_
      rw [List.getElem?_reverse (by omega), ← h]
      congr 1
      omega
    · rw [if_neg hneg] at h
      have hn : n = (n.toNat : Int) := by omega
      rw [hn]
      exact .front h

theorem itemAt_ok {α : Type} {outside : String} {items : List α} {n : Int} {item : α} :
    itemAt outside items n = .ok item ↔
      -positionBound ≤ n ∧ n < positionBound ∧ At items n item := by
  rw [at_iff]
  unfold itemAt
  simp only [Bool.or_eq_true, decide_eq_true_eq]
  split
  · next hout =>
    constructor
    · intro h; cases h
    · rintro ⟨hlow, hhigh, -⟩
      omega
  · next hin =>
    have hlow : -(positionBound : Int) ≤ n := by omega
    have hhigh : n < (positionBound : Int) := by omega
    simp only [hlow, hhigh, true_and]
    generalize (if n < 0 then n + (items.length : Int) else n) = index
    by_cases hneg : index < 0
    · rw [if_pos hneg]
      constructor
      · intro h; cases h
      · rintro ⟨h, -⟩
        omega
    · have hindex : 0 ≤ index := by omega
      rw [if_neg hneg]
      cases items[index.toNat]? <;> simp [hindex]

section

variable {d : Document} {name entry : Data} {endpoints : Contents}

theorem holds_of_entryUnder (h : Search d name endpoints true)
    (hentry : entryUnder d endpoints name = .ok entry) : Holds d name endpoints entry := by
  cases h with
  | @key entries key _ hkey hfound =>
      simp only [entryUnder] at hentry
      obtain ⟨key', hkey', hunder⟩ := bind_ok.1 hentry
      have hsame : key' = key := by
        have h := (keyOf_ok.1 hkey').symm.trans hkey
        cases h
        rfl
      obtain ⟨found, hsome⟩ := Option.isSome_iff_exists.1 (under?_isSome.2 (hfound.1 rfl))
      rw [hsame, hsome] at hunder
      cases hunder
      exact .key hkey hsome
  | element => cases hentry
  | text => cases hentry
  | @item before after item hbefore hitem =>
      unfold entryUnder at hentry
      cases hname : d.contents name with
      | scalar s =>
          cases hposition : position? s with
          | some n =>
              simp only [hname, hposition] at hentry
              obtain ⟨hlow, hhigh, hat⟩ := itemAt_ok.1 hentry
              exact .item hname hposition hlow hhigh hat
          | none =>
              simp only [hname, hposition] at hentry
              cases hentry
      | _ =>
          simp only [hname] at hentry
          cases hentry
  | bytes hpart hfound =>
      simp only [entryUnder, hpart, position?] at hentry
      cases hentry
  | byte hkey hb hfound =>
      simp only [entryUnder, hkey, hb] at hentry
      obtain ⟨e, he, hdata⟩ := bind_ok.1 hentry
      cases hdata
      obtain ⟨hlow, hhigh, hat⟩ := itemAt_ok.1 he
      exact .byte hkey hb hlow hhigh hat

theorem Holds.entryUnder (h : Holds d name endpoints entry) :
    entryUnder d endpoints name = .ok entry := by
  cases h with
  | key hkey hentry =>
      simp only [Config.entryUnder]
      exact bind_ok.2 ⟨_, keyOf_ok.2 hkey, by rw [hentry]; rfl⟩
  | item hkey hposition hlow hhigh hat =>
      simp only [Config.entryUnder, hkey, hposition]
      exact itemAt_ok.2 ⟨hlow, hhigh, hat⟩
  | byte hkey hposition hlow hhigh hat =>
      simp only [Config.entryUnder, hkey, hposition]
      exact bind_ok.2 ⟨_, itemAt_ok.2 ⟨hlow, hhigh, hat⟩, rfl⟩

end

end QueryShell.Config
