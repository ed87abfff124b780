import Mathlib.Data.Nat.Digits.Defs
import QueryShell.Proofs.Text.Characters

namespace QueryShell.Text

def DigitAs (c : Char) (d : Nat) : Prop :=
  d < 10 ∧ ∃ start ∈ digitZeros, c.toNat = start + d

def hexMarks : List (Char × Nat) :=
  "0123456789abcdef".toList.zipIdx ++ "ABCDEF".toList.zipIdx 10

def HexAs (c : Char) (d : Nat) : Prop :=
  (c, d) ∈ hexMarks

/-- The first digit counts most. -/
def Numeral (digitAs : Char → Nat → Prop) (base : Nat) (cs : List Char) (n : Nat) : Prop :=
  ∃ ds, List.Forall₂ digitAs cs ds ∧ n = Nat.ofDigits base ds.reverse

theorem digitValue?_eq_some_iff {c : Char} {d : Nat} : digitValue? c = some d ↔ DigitAs c d := by
  constructor
  · intro h
    obtain ⟨start, hfound, rfl⟩ := Option.map_eq_some_iff.1 h
    have hmem := List.mem_of_find?_eq_some hfound
    have hbounds := List.find?_some hfound
    simp only [Bool.and_eq_true, decide_eq_true_eq] at hbounds
    exact ⟨by omega, start, hmem, by omega⟩
  · rintro ⟨hd, start, hmem, hc⟩
    have hapart : ∀ m ∈ digitZeros, ∀ n ∈ digitZeros, m ≤ n → n ≤ m + 9 → m = n := by
      decide +kernel
    have hsome : (digitZeros.find? fun n => n ≤ c.toNat && c.toNat ≤ n + 9) = some start := by
      cases hfound : digitZeros.find? fun n => n ≤ c.toNat && c.toNat ≤ n + 9 with
      | none =>
          have hnot := List.find?_eq_none.1 hfound start hmem
          simp only [Bool.and_eq_true, decide_eq_true_eq] at hnot
          omega
      | some other =>
          have hbounds := List.find?_some hfound
          have hother := List.mem_of_find?_eq_some hfound
          simp only [Bool.and_eq_true, decide_eq_true_eq] at hbounds
          rcases Nat.le_total start other with hle | hle
          · rw [hapart start hmem other hother hle (by omega)]
          · rw [hapart other hother start hmem hle (by omega)]
    rw [digitValue?, hsome, Option.map_some, hc, Nat.add_sub_cancel_left]

theorem char_between {low high c : Char} (h : (low ≤ c && c ≤ high) = true) :
    low.toNat ≤ c.toNat ∧ c.toNat ≤ high.toNat := by
  simp only [Bool.and_eq_true, decide_eq_true_eq, Char.le_def, UInt32.le_iff_toNat_le] at h
  exact h

theorem hexValue?_eq_some_iff {c : Char} {d : Nat} : hexValue? c = some d ↔ HexAs c d := by
  have hnear : ∀ (low : Nat) (value : Nat → Nat) (count : Nat),
      (∀ k < count, (Char.ofNat (low + k), value (low + k)) ∈ hexMarks) →
      low ≤ c.toNat → c.toNat ≤ low + count - 1 → 0 < count → HexAs c (value c.toNat) := by
    intro low value count hall hlow hhigh hcount
    have hmem := hall (c.toNat - low) (by omega)
    rwa [Nat.add_sub_cancel' hlow, Char.ofNat_toNat] at hmem
  constructor
  · intro h
    unfold hexValue? at h
    split at h
    · next hc =>
        cases h
        obtain ⟨hlow, hhigh⟩ := char_between hc
        exact hnear 48 (· - 48) 10 (by decide) hlow hhigh (by decide)
    · split at h
      · next hc =>
          cases h
          obtain ⟨hlow, hhigh⟩ := char_between hc
          exact hnear 97 (· - 87) 6 (by decide) hlow hhigh (by decide)
      · split at h
        · next hc =>
            cases h
            obtain ⟨hlow, hhigh⟩ := char_between hc
            exact hnear 65 (· - 55) 6 (by decide) hlow hhigh (by decide)
        · cases h
  · have hall : ∀ p ∈ hexMarks, hexValue? p.1 = some p.2 := by decide
    exact hall (c, d)

theorem spelled_eq_ofDigits (base : Nat) (ds : List Nat) :
    spelled base ds = Nat.ofDigits base ds.reverse := by
  rw [Nat.ofDigits_eq_foldr, List.foldr_reverse, spelled]
  simp only [Nat.cast_id, Nat.add_comm, Nat.mul_comm]

section

variable {digitAs : Char → Nat → Prop} {value? : Char → Option Nat}

theorem isSome_of_forall₂ (hvalue : ∀ {c d}, value? c = some d ↔ digitAs c d) {cs : List Char}
    {ds : List Nat} (h : List.Forall₂ digitAs cs ds) :
    cs.filterMap value? = ds ∧ ∀ c ∈ cs, (value? c).isSome = true := by
  induction h with
  | nil => simp
  | cons hd _ ih =>
      have hsome := hvalue.2 hd
      rw [List.filterMap_cons_some hsome, ih.1, List.forall_mem_cons, hsome]
      exact ⟨rfl, rfl, ih.2⟩

theorem forall₂_filterMap (hvalue : ∀ {c d}, value? c = some d ↔ digitAs c d) {cs : List Char}
    (h : ∀ c ∈ cs, (value? c).isSome = true) :
    List.Forall₂ digitAs cs (cs.filterMap value?) := by
  induction cs with
  | nil => exact .nil
  | cons c cs ih =>
      rw [List.forall_mem_cons] at h
      obtain ⟨d, hd⟩ := Option.isSome_iff_exists.1 h.1
      rw [List.filterMap_cons_some hd]
      exact .cons (hvalue.1 hd) (ih h.2)

theorem numeral_iff (hvalue : ∀ {c d}, value? c = some d ↔ digitAs c d) {base n : Nat}
    {cs : List Char} :
    Numeral digitAs base cs n ↔
      (∀ c ∈ cs, (value? c).isSome = true) ∧ n = spelled base (cs.filterMap value?) := by
  constructor
  · rintro ⟨ds, hds, rfl⟩
    obtain ⟨heq, hall⟩ := isSome_of_forall₂ hvalue hds
    exact ⟨hall, by rw [heq, spelled_eq_ofDigits]⟩
  · rintro ⟨hall, rfl⟩
    exact ⟨_, forall₂_filterMap hvalue hall, spelled_eq_ofDigits base _⟩

end

theorem hexNumeral_iff {base n : Nat} {cs : List Char} :
    Numeral HexAs base cs n ↔
      (∀ c ∈ cs, (hexValue? c).isSome = true) ∧ n = spelled base (cs.filterMap hexValue?) :=
  numeral_iff hexValue?_eq_some_iff

theorem decimalNumeral_iff {n : Nat} {cs : List Char} :
    Numeral DigitAs 10 cs n ↔ (∀ c ∈ cs, isDigit c = true) ∧ n = decimalValue cs :=
  numeral_iff digitValue?_eq_some_iff

end QueryShell.Text
