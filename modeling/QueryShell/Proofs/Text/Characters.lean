import Mathlib.Algebra.Group.Nat.Defs
import QueryShell.Text.Blank
import QueryShell.Text.Digit

namespace QueryShell.Text

theorem exists_zero_of_digit {c : Char} (h : isDigit c = true) :
    ∃ start ∈ digitZeros, start ≤ c.toNat ∧ c.toNat ≤ start + 9 := by
  simp only [isDigit, digitValue?, Option.isSome_map, List.find?_isSome] at h
  obtain ⟨start, hmem, hc⟩ := h
  simp only [Bool.and_eq_true, decide_eq_true_eq] at hc
  exact ⟨start, hmem, hc⟩

theorem digit_bounds {c : Char} (h : isDigit c = true) :
    (48 ≤ c.toNat ∧ c.toNat ≤ 57) ∨ 0x660 ≤ c.toNat := by
  obtain ⟨start, hmem, hc⟩ := exists_zero_of_digit h
  have hzeros : ∀ n ∈ digitZeros, n = 48 ∨ 0x660 ≤ n := by decide
  have hstart := hzeros start hmem
  omega

theorem not_blank_of_bounds {c : Char} (h : (0x20 < c.toNat ∧ c.toNat < 0x85) ∨
    (0xa0 < c.toNat ∧ c.toNat < 0x1680) ∨ (0x1680 < c.toNat ∧ c.toNat < 0x2000) ∨
    0x3000 < c.toNat) : isBlank c = false := by
  simp only [isBlank, Bool.or_eq_false_iff, Bool.and_eq_false_iff, decide_eq_false_iff_not,
    beq_eq_false_iff_ne]
  omega

theorem not_blank_of_digit {c : Char} (h : isDigit c = true) : isBlank c = false := by
  obtain ⟨start, hmem, hc⟩ := exists_zero_of_digit h
  have hzeros : ∀ n ∈ digitZeros, n = 48 ∨ (0x660 ≤ n ∧ n < 0x1677) ∨
      (0x1681 ≤ n ∧ n < 0x1ff7) ∨ 0x3001 ≤ n := by decide
  have hstart := hzeros start hmem
  exact not_blank_of_bounds (by omega)

theorem digitValue?_ascii {c : Char} (h : c.isDigit = true) :
    digitValue? c = some (c.toNat - 48) := by
  have hall : ∀ n < 10, digitValue? (Char.ofNat (48 + n)) = some n := by decide
  have hbounds : 48 ≤ c.toNat ∧ c.toNat ≤ 57 := by
    simp only [Char.isDigit, Bool.and_eq_true, decide_eq_true_eq] at h
    exact h
  have hc := hall (c.toNat - 48) (by omega)
  rwa [Nat.add_sub_cancel' hbounds.1, Char.ofNat_toNat] at hc

theorem digitValue?_lt {c : Char} {d : Nat} (h : digitValue? c = some d) : d < 10 := by
  obtain ⟨start, hfound, rfl⟩ := Option.map_eq_some_iff.1 h
  have hbounds := List.find?_some hfound
  simp only [Bool.and_eq_true, decide_eq_true_eq] at hbounds
  omega

theorem isDigit_of_ascii {c : Char} (h : c.isDigit = true) : isDigit c = true := by
  rw [isDigit, digitValue?_ascii h]
  rfl

theorem foldl_spelled (base n : Nat) (ds : List Nat) :
    ds.foldl (fun acc d => acc * base + d) n = n * base ^ ds.length + spelled base ds := by
  induction ds generalizing n with
  | nil => simp [spelled]
  | cons d ds ih =>
      rw [spelled, List.foldl_cons, List.foldl_cons, ih, ih (0 * base + d), List.length_cons,
        Nat.pow_succ']
      simp only [Nat.add_mul, Nat.zero_mul, Nat.zero_add, Nat.mul_assoc, Nat.add_assoc]

theorem spelled_append (base : Nat) (ds es : List Nat) :
    spelled base (ds ++ es) = spelled base ds * base ^ es.length + spelled base es := by
  rw [spelled, List.foldl_append]
  exact foldl_spelled base _ es

theorem length_digits {cs : List Char} (h : ∀ c ∈ cs, isDigit c = true) :
    (cs.filterMap digitValue?).length = cs.length := by
  induction cs with
  | nil => rfl
  | cons c cs ih =>
      obtain ⟨n, hn⟩ := Option.isSome_iff_exists.1 (h c (by simp))
      rw [List.filterMap_cons_some hn, List.length_cons, List.length_cons,
        ih fun d hd => h d (by simp [hd])]

theorem decimalValue_append (cs : List Char) {ds : List Char} (h : ∀ d ∈ ds, isDigit d = true) :
    decimalValue (cs ++ ds) = decimalValue cs * 10 ^ ds.length + decimalValue ds := by
  rw [decimalValue, List.filterMap_append, spelled_append, length_digits h]
  rfl

theorem decimalValue_eq {cs : List Char} (h : ∀ c ∈ cs, c.isDigit = true) :
    decimalValue cs = Nat.ofDigitChars 10 cs 0 := by
  have hfrom : ∀ n, (cs.filterMap digitValue?).foldl (fun acc d => acc * 10 + d) n =
      Nat.ofDigitChars 10 cs n := by
    induction cs with
    | nil => intro n; rfl
    | cons c cs ih =>
        intro n
        rw [List.filterMap_cons_some (digitValue?_ascii (h c (by simp))), List.foldl_cons,
          ih fun d hd => h d (by simp [hd])]
        simp [Nat.ofDigitChars, Nat.mul_comm]
  exact hfrom 0

end QueryShell.Text
