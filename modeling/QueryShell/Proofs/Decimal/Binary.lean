import Mathlib
import QueryShell.Decimal.Shortest

namespace QueryShell.Decimal

theorem pow_toNat (b : ℚ) (hb : b ≠ 0) (g : Int) :
    b ^ g.toNat = b ^ g * b ^ (-g).toNat := by
  have hsplit : (g.toNat : Int) = g + (-g).toNat := by omega
  rw [← zpow_natCast b g.toNat, hsplit, zpow_add₀ hb, zpow_natCast]

theorem tenTo_toNat (g : Int) : (tenTo g.toNat : ℚ) = 10 ^ g * tenTo (-g).toNat := by
  have h := pow_toNat 10 (by norm_num) g
  simpa [tenTo] using h

theorem twoTo_toNat (e : Int) : (twoTo e.toNat : ℚ) = 2 ^ e * twoTo (-e).toNat := by
  have h := pow_toNat 2 (by norm_num) e
  simpa [twoTo] using h

theorem tenTo_eq (n : Nat) : tenTo n = 10 ^ n :=
  rfl

theorem twoTo_eq (n : Nat) : twoTo n = 2 ^ n :=
  rfl

theorem tenTo_pos (n : Nat) : 0 < tenTo n :=
  Nat.pow_pos (by decide)

theorem twoTo_pos (n : Nat) : 0 < twoTo n :=
  Nat.pow_pos (by decide)

namespace Binary

structure Canonical (v : Binary) : Prop where
  positive : 0 < v.mantissa
  fits : v.mantissa < 2 ^ 53
  least : -1074 ≤ v.exponent
  greatest : v.exponent ≤ 971
  normal : -1074 < v.exponent → 2 ^ 52 ≤ v.mantissa
  narrow : v.narrowBelow = true ↔ v.mantissa = 2 ^ 52 ∧ -1074 < v.exponent

def toRat (v : Binary) : ℚ :=
  v.mantissa * 2 ^ v.exponent

def share (v : Binary) : ℚ :=
  if v.narrowBelow then 1 / 4 else 1 / 2

def low (v : Binary) : ℚ :=
  (v.mantissa - v.share) * 2 ^ v.exponent

def high (v : Binary) : ℚ :=
  (v.mantissa + 1 / 2) * 2 ^ v.exponent

def Nears (v : Binary) (q : ℚ) : Prop :=
  if v.mantissa % 2 = 0 then v.low ≤ q ∧ q ≤ v.high else v.low < q ∧ q < v.high

section

variable {v w : Binary} {q : ℚ}

theorem share_le (v : Binary) : v.share ≤ 1 / 2 := by
  unfold share
  split <;> norm_num

theorem Nears.bounds (h : v.Nears q) : v.low ≤ q ∧ q ≤ v.high := by
  unfold Nears at h
  split at h
  · exact h
  · exact ⟨h.1.le, h.2.le⟩

theorem nears_of_lt (hlow : v.low < q) (hhigh : q < v.high) : v.Nears q := by
  unfold Nears
  split
  · exact ⟨hlow.le, hhigh.le⟩
  · exact ⟨hlow, hhigh⟩

theorem Nears.odd (h : v.Nears q) (hodd : v.mantissa % 2 ≠ 0) : v.low < q ∧ q < v.high := by
  rwa [Nears, if_neg hodd] at h

theorem high_le_low {n : Nat} (he : v.exponent = w.exponent) (hn : v.mantissa + n ≤ w.mantissa) :
    v.high + (n - 1) * 2 ^ v.exponent ≤ w.low := by
  have hman : (v.mantissa : ℚ) + n ≤ w.mantissa := by exact_mod_cast hn
  have hshare := w.share_le
  calc v.high + (n - 1) * 2 ^ v.exponent = (v.mantissa + n - 1 / 2) * 2 ^ v.exponent := by
        unfold high; ring
    _ ≤ (w.mantissa - w.share) * 2 ^ v.exponent := by gcongr
    _ = w.low := by rw [low, he]

theorem Canonical.low_ge (hw : w.Canonical) (he : -1074 < w.exponent) :
    (2 ^ 52 - 1 / 4) * 2 ^ w.exponent ≤ w.low := by
  have hleast := hw.normal he
  refine mul_le_mul_of_nonneg_right ?_ (by positivity)
  unfold share
  split
  · have hman : (2 : ℚ) ^ 52 ≤ w.mantissa := by exact_mod_cast hleast
    linarith
  · next hwide =>
      have hne : w.mantissa ≠ 2 ^ 52 := fun heq => hwide (hw.narrow.2 ⟨heq, he⟩)
      have hman : (2 : ℚ) ^ 52 + 1 ≤ w.mantissa := by
        exact_mod_cast Nat.lt_of_le_of_ne hleast hne.symm
      linarith

theorem high_le {n : Nat} (hn : v.mantissa + n ≤ 2 ^ 53) :
    v.high + (n - 1) * 2 ^ v.exponent ≤ (2 ^ 52 - 1 / 4) * 2 ^ (v.exponent + 1) := by
  have hman : (v.mantissa : ℚ) + n ≤ 2 ^ 53 := by exact_mod_cast hn
  calc v.high + (n - 1) * 2 ^ v.exponent = (v.mantissa + n - 1 / 2) * 2 ^ v.exponent := by
        unfold high; ring
    _ ≤ (2 ^ 53 - 1 / 2) * 2 ^ v.exponent := by gcongr
    _ = (2 ^ 52 - 1 / 4) * 2 ^ (v.exponent + 1) := by rw [zpow_add_one₀ (by norm_num)]; ring

def Before (v w : Binary) : Prop :=
  v.exponent < w.exponent ∨ (v.exponent = w.exponent ∧ v.mantissa < w.mantissa)

theorem Canonical.high_le_low (hv : v.Canonical) (hw : w.Canonical) (h : v.Before w) {n : Nat}
    (hn : n = 1 ∨ (n = 2 ∧ v.mantissa % 2 = 0 ∧ w.mantissa % 2 = 0)) :
    v.high + (n - 1) * 2 ^ v.exponent ≤ w.low := by
  rcases h with hexp | ⟨hexp, hman⟩
  · have hfits := hv.fits
    have hmore : -1074 < w.exponent := lt_of_le_of_lt hv.least hexp
    calc v.high + (n - 1) * 2 ^ v.exponent ≤ (2 ^ 52 - 1 / 4) * 2 ^ (v.exponent + 1) :=
          high_le (by omega)
      _ ≤ (2 ^ 52 - 1 / 4) * 2 ^ w.exponent := by
          have hstep : (2 : ℚ) ^ (v.exponent + 1) ≤ 2 ^ w.exponent :=
            zpow_le_zpow_right₀ (by norm_num) (by omega)
          exact mul_le_mul_of_nonneg_left hstep (by norm_num)
      _ ≤ w.low := hw.low_ge hmore
  · exact Binary.high_le_low hexp (by omega)

theorem Canonical.not_nears (hv : v.Canonical) (hw : w.Canonical) (h : v.Before w)
    (hvq : v.Nears q) : ¬ w.Nears q := by
  intro hwq
  have htouch := hv.high_le_low hw h (.inl rfl)
  have hhigh := hvq.bounds.2
  have hlow := hwq.bounds.1
  have hgap : (0 : ℚ) < 2 ^ v.exponent := by positivity
  rcases Nat.mod_two_eq_zero_or_one v.mantissa with hveven | hvodd
  · rcases Nat.mod_two_eq_zero_or_one w.mantissa with hweven | hwodd
    · have hapart := hv.high_le_low hw h (.inr ⟨rfl, hveven, hweven⟩)
      push_cast at hapart
      linarith
    · have := (hwq.odd (by omega)).1
      push_cast at htouch
      linarith
  · have := (hvq.odd (by omega)).2
    push_cast at htouch
    linarith

theorem Canonical.ext (hv : v.Canonical) (hw : w.Canonical) (hman : v.mantissa = w.mantissa)
    (hexp : v.exponent = w.exponent) : v = w := by
  have hnarrow : v.narrowBelow = w.narrowBelow := by
    rw [Bool.eq_iff_iff, hv.narrow, hw.narrow, hman, hexp]
  cases v
  cases w
  simp_all

theorem Nears.unique (hv : v.Canonical) (hw : w.Canonical) (hvq : v.Nears q) (hwq : w.Nears q) :
    v = w := by
  have hnot : ¬ v.Before w := fun h => hv.not_nears hw h hvq hwq
  have hnot' : ¬ w.Before v := fun h => hw.not_nears hv h hwq hvq
  unfold Before at hnot hnot'
  exact hv.ext hw (by omega) (by omega)

end

section

variable (v : Binary)

theorem interval_low (hpos : 0 < v.mantissa) :
    (v.interval.low : ℚ) = 4 * v.low * twoTo (-v.exponent).toNat := by
  have hunit := twoTo_toNat v.exponent
  have hle : (if v.narrowBelow then twoTo v.exponent.toNat else 2 * twoTo v.exponent.toNat) ≤
      4 * v.mantissa * twoTo v.exponent.toNat := by
    split <;> nlinarith
  simp only [interval, low, share]
  rw [Nat.cast_sub hle]
  split <;> push_cast <;> rw [hunit] <;> ring

theorem interval_high : (v.interval.high : ℚ) = 4 * v.high * twoTo (-v.exponent).toNat := by
  have hunit := twoTo_toNat v.exponent
  simp only [interval, high]
  push_cast
  rw [hunit]
  ring

theorem interval_has_iff (hpos : 0 < v.mantissa) (digits : Nat) (grid : Int) :
    v.interval.has digits grid = true ↔ v.Nears (digits * 10 ^ grid) := by
  let unit : ℚ := 4 * twoTo (-v.exponent).toNat * tenTo (-grid).toNat
  have hunit : 0 < unit := by
    have htwo := twoTo_pos (-v.exponent).toNat
    have hten := tenTo_pos (-grid).toNat
    positivity
  have hlow : ((v.interval.low * tenTo (-grid).toNat : Nat) : ℚ) = v.low * unit := by
    rw [Nat.cast_mul, v.interval_low hpos]
    ring
  have hhigh : ((v.interval.high * tenTo (-grid).toNat : Nat) : ℚ) = v.high * unit := by
    rw [Nat.cast_mul, v.interval_high]
    ring
  have hscaled : ((digits * tenTo grid.toNat * v.interval.den : Nat) : ℚ) =
      digits * 10 ^ grid * unit := by
    simp only [interval]
    push_cast
    rw [tenTo_toNat grid]
    ring
  have hclosed : v.interval.closed = (v.mantissa % 2 == 0) := rfl
  unfold Interval.has Nears
  rw [hclosed]
  by_cases heven : v.mantissa % 2 = 0
  · simp only [heven, BEq.rfl, if_true, Bool.and_eq_true, decide_eq_true_eq]
    rw [← Nat.cast_le (α := ℚ), ← Nat.cast_le (α := ℚ), hlow, hhigh, hscaled,
      mul_le_mul_iff_left₀ hunit, mul_le_mul_iff_left₀ hunit]
  · simp only [heven, beq_iff_eq, if_false, Bool.and_eq_true, decide_eq_true_eq]
    rw [← Nat.cast_lt (α := ℚ), ← Nat.cast_lt (α := ℚ), hlow, hhigh, hscaled,
      mul_lt_mul_iff_left₀ hunit, mul_lt_mul_iff_left₀ hunit]

end

end Binary

def Reading.bits : Reading → Nat
  | .finite negative v =>
      (if negative then 2 ^ 63 else 0) + (v.exponent + 1074).toNat * 2 ^ 52 + v.mantissa
  | .infinite negative => (if negative then 2 ^ 63 else 0) + 2047 * 2 ^ 52
  | .undefined => 0

theorem ofBits_eq (bits : UInt64) : Reading.ofBits bits =
    (let b := bits.toNat
     let scale : Nat := b / 2 ^ 52 % 2 ^ 11
     let negative := b / 2 ^ 63 == 1
     if scale = 2047 then if b % 2 ^ 52 = 0 then .infinite negative else .undefined
     else if scale = 0 then .finite negative ⟨b % 2 ^ 52, -1074, false⟩
     else .finite negative
      ⟨2 ^ 52 + b % 2 ^ 52, (scale : Int) - 1075, b % 2 ^ 52 == 0 && scale > 1⟩) := by
  simp only [Reading.ofBits, beq_iff_eq]
  rfl

theorem bits_ofBits {bits : UInt64} (h : Reading.ofBits bits ≠ .undefined) :
    (Reading.ofBits bits).bits = bits.toNat := by
  have hlt := bits.toNat_lt
  have hsign : (if (bits.toNat / 2 ^ 63 == 1) = true then 2 ^ 63 else 0) =
      bits.toNat / 2 ^ 63 * 2 ^ 63 := by
    split
    · next hone => rw [beq_iff_eq.1 hone, Nat.one_mul]
    · next hzero =>
        rw [beq_iff_eq] at hzero
        omega
  rw [ofBits_eq] at h ⊢
  generalize bits.toNat = b at *
  dsimp only at h ⊢
  split at h
  · next hmax =>
      rw [if_pos hmax]
      split at h
      · next hzero =>
          rw [if_pos hzero, Reading.bits, hsign]
          omega
      · exact absurd rfl h
  · next hfinite =>
      rw [if_neg hfinite]
      split
      · rw [Reading.bits, hsign]
        simp only
        omega
      · rw [Reading.bits, hsign]
        simp only
        omega

section

variable {x y : Float} {negative : Bool} {v : Binary}

theorem canonical_of_read (h : read x = .finite negative v) (hpos : 0 < v.mantissa) :
    v.Canonical := by
  rw [read, ofBits_eq] at h
  generalize x.toBits.toNat = b at h
  dsimp only at h
  split at h
  · split at h <;> cases h
  · split at h
    · cases h
      constructor <;> simp at hpos ⊢ <;> omega
    · cases h
      constructor <;> simp <;> omega

theorem zero_of_read (h : read x = .finite negative v) (hzero : v.mantissa = 0) :
    v = ⟨0, -1074, false⟩ := by
  rw [read, ofBits_eq] at h
  dsimp only at h
  split at h
  · split at h <;> cases h
  · split at h
    · cases h
      simp only at hzero
      rw [hzero]
    · cases h
      simp at hzero

theorem eq_nan_of_read (h : read x = .undefined) : x = Float.nan := by
  rw [read, ofBits_eq] at h
  dsimp only at h
  rw [← Float.toBits_inj, ← UInt64.toBitVec_inj]
  split at h
  · next hmax =>
      split at h
      · cases h
      · next hne =>
          refine x.toModel.valid.eq_packedNaN ?_ ?_
          · apply BitVec.eq_of_toNat_eq
            simpa [Float.Model.UnpackedFloat.unpackExponent, BitVec.extractLsb,
              Nat.shiftRight_eq_div_pow, Float.toBits] using hmax
          · rw [ne_eq, ← BitVec.toNat_inj]
            simpa [Float.Model.UnpackedFloat.unpackMantissa, BitVec.extractLsb,
              Float.toBits] using hne
  · split at h <;> cases h

theorem read_inj (h : read x = read y) : x = y := by
  by_cases hx : read x = .undefined
  · rw [eq_nan_of_read hx, eq_nan_of_read (h.symm.trans hx)]
  · have hy : read y ≠ .undefined := fun hy => hx (h.trans hy)
    rw [← Float.toBits_inj, ← UInt64.toNat_inj, ← bits_ofBits hx, ← bits_ofBits hy]
    exact congrArg Reading.bits h

end

end QueryShell.Decimal
