import QueryShell.Proofs.Decimal.Binary

namespace QueryShell.Decimal

theorem pow_ten_le_pow_two {a b : Int} (h : 10 * a ≤ 3 * b) (h' : 93 * a ≤ 28 * b) :
    (10 : ℚ) ^ a ≤ 2 ^ b := by
  rcases le_total 0 b with hb | hb
  · obtain ⟨n, rfl⟩ := Int.eq_ofNat_of_zero_le hb
    rw [← pow_le_pow_iff_left₀ (by positivity) (by positivity) (show 10 ≠ 0 by decide)]
    calc ((10 : ℚ) ^ a) ^ 10 = 10 ^ (10 * a) := by rw [mul_comm, zpow_mul]; rfl
      _ ≤ 10 ^ (3 * (n : Int)) := zpow_le_zpow_right₀ (by norm_num) h
      _ = (10 ^ 3) ^ n := by rw [zpow_mul]; rfl
      _ ≤ (2 ^ 10) ^ n := pow_le_pow_left₀ (by norm_num) (by norm_num) n
      _ = ((2 : ℚ) ^ (n : Int)) ^ 10 := by rw [zpow_natCast, pow_right_comm]
  · obtain ⟨n, rfl⟩ := Int.exists_eq_neg_ofNat hb
    rw [← pow_le_pow_iff_left₀ (by positivity) (by positivity) (show 93 ≠ 0 by decide)]
    calc ((10 : ℚ) ^ a) ^ 93 = 10 ^ (93 * a) := by rw [mul_comm, zpow_mul]; rfl
      _ ≤ 10 ^ (28 * -(n : Int)) := zpow_le_zpow_right₀ (by norm_num) h'
      _ = ((10 ^ 28) ^ n)⁻¹ := by rw [zpow_mul, zpow_neg, zpow_natCast]; rfl
      _ ≤ ((2 ^ 93) ^ n)⁻¹ := by
          gcongr
          norm_num
      _ = ((2 : ℚ) ^ (-(n : Int))) ^ 93 := by
          rw [zpow_neg, zpow_natCast, inv_pow, pow_right_comm]

theorem pow_two_le_pow_ten {a b : Int} (h : 28 * b ≤ 93 * a) (h' : 3 * b ≤ 10 * a) :
    (2 : ℚ) ^ b ≤ 10 ^ a := by
  have hflip := pow_ten_le_pow_two (a := -a) (b := -b) (by omega) (by omega)
  rw [zpow_neg, zpow_neg] at hflip
  exact (inv_le_inv₀ (by positivity) (by positivity)).1 hflip

theorem lt_pow_ten_iff {q : ℚ} (hq : 0 < q) (p : Int) : q < 10 ^ p ↔ Int.log 10 q < p := by
  have h := Int.lt_zpow_iff_log_lt (b := 10) (by decide) (x := p) hq
  exact_mod_cast h

theorem pow_ten_le_iff {q : ℚ} (hq : 0 < q) (p : Int) : 10 ^ p ≤ q ↔ p ≤ Int.log 10 q := by
  have h := Int.zpow_le_iff_le_log (b := 10) (by decide) (x := p) hq
  exact_mod_cast h

section

variable {num den : Nat}

theorem below_pow_iff (hden : 0 < den) (p : Int) :
    num * tenTo (-p).toNat < den * tenTo p.toNat ↔ (num : ℚ) / den < 10 ^ p := by
  have hten : (0 : ℚ) < tenTo (-p).toNat := by exact_mod_cast tenTo_pos _
  rw [div_lt_iff₀ (by exact_mod_cast hden), ← Nat.cast_lt (α := ℚ)]
  push_cast
  rw [tenTo_toNat p, ← mul_assoc, mul_lt_mul_iff_left₀ hten, mul_comm]

theorem go_eq (hnum : 0 < num) (hden : 0 < den) (steps : Nat) (p : Int)
    (hlow : p ≤ Int.log 10 (num / den : ℚ) + 1) (hhigh : Int.log 10 (num / den : ℚ) < p + steps) :
    pointOf.go num den steps p = Int.log 10 (num / den : ℚ) + 1 := by
  have hpos : (0 : ℚ) < num / den := by positivity
  induction steps generalizing p with
  | zero =>
      rw [pointOf.go]
      push_cast at hhigh
      omega
  | succ steps ih =>
      simp only [pointOf.go, below_pow_iff hden, lt_pow_ten_iff hpos]
      push_cast at hhigh
      split
      · omega
      · exact ih (p + 1) (by omega) (by omega)

end

theorem log2_mul_two_pow {n : Nat} (hn : n ≠ 0) (k : Nat) : (n * 2 ^ k).log2 = n.log2 + k := by
  induction k with
  | zero => rw [Nat.pow_zero, Nat.mul_one, Nat.add_zero]
  | succ k ih =>
      have hne : n * 2 ^ k ≠ 0 := Nat.mul_ne_zero hn (by positivity)
      rw [Nat.pow_succ', Nat.mul_left_comm, Nat.log2_two_mul hne, ih, Nat.add_assoc]

namespace Binary

variable {v : Binary} {q : ℚ}

theorem centre_div_den (v : Binary) : (v.interval.centre : ℚ) / v.interval.den = v.toRat := by
  have htwo : (0 : ℚ) < twoTo (-v.exponent).toNat := by exact_mod_cast twoTo_pos _
  simp only [interval, toRat]
  push_cast
  rw [twoTo_toNat, div_eq_iff (by positivity)]
  ring

theorem den_pos (v : Binary) : 0 < v.interval.den :=
  Nat.mul_pos (by decide) (twoTo_pos _)

theorem Canonical.centre_pos (hv : v.Canonical) : 0 < v.interval.centre :=
  Nat.mul_pos (Nat.mul_pos (by decide) hv.positive) (twoTo_pos _)

theorem Canonical.toRat_pos (hv : v.Canonical) : 0 < v.toRat := by
  have hpos : (0 : ℚ) < v.mantissa := by exact_mod_cast hv.positive
  exact mul_pos hpos (by positivity)

theorem Canonical.log2_sub (hv : v.Canonical) :
    (v.interval.centre.log2 : Int) - v.interval.den.log2 = v.mantissa.log2 + v.exponent := by
  have hcentre : v.interval.centre = v.mantissa * 2 ^ (2 + v.exponent.toNat) := by
    simp only [interval, twoTo_eq]
    ring
  have hden : v.interval.den = 1 * 2 ^ (2 + (-v.exponent).toNat) := by
    simp only [interval, twoTo_eq]
    ring
  have hone : Nat.log2 1 = 0 := by decide
  rw [hcentre, hden, log2_mul_two_pow hv.positive.ne', log2_mul_two_pow one_ne_zero, hone]
  omega

theorem Canonical.toRat_bounds (hv : v.Canonical) :
    2 ^ (v.mantissa.log2 + v.exponent : Int) ≤ v.toRat ∧
      v.toRat < 2 ^ (v.mantissa.log2 + v.exponent + 1 : Int) := by
  have hlog := (Nat.log2_eq_iff hv.positive.ne').1 rfl
  have hlow : (2 : ℚ) ^ v.mantissa.log2 ≤ v.mantissa := by exact_mod_cast hlog.1
  have hhigh : (v.mantissa : ℚ) < 2 ^ (v.mantissa.log2 + 1) := by exact_mod_cast hlog.2
  constructor
  · rw [zpow_add₀ (by norm_num), zpow_natCast]
    exact mul_le_mul_of_nonneg_right hlow (by positivity)
  · rw [add_right_comm, zpow_add₀ (by norm_num), ← Nat.cast_succ, zpow_natCast]
    exact mul_lt_mul_of_pos_right hhigh (by positivity)

theorem Canonical.pointOf_eq (hv : v.Canonical) :
    pointOf v.interval.centre v.interval.den = Int.log 10 v.toRat + 1 := by
  have hpos := hv.toRat_pos
  have hbounds := hv.toRat_bounds
  have hlog : v.mantissa.log2 < 53 := (Nat.log2_lt hv.positive.ne').2 hv.fits
  have hleast := hv.least
  have hgreatest := hv.greatest
  rw [pointOf, hv.log2_sub]
  generalize hk : (v.mantissa.log2 : Int) + v.exponent = k at *
  have hlow : ((k - 1) * 30103 / 100000 - 1 - 1 : Int) ≤ Int.log 10 v.toRat := by
    rw [← pow_ten_le_iff hpos]
    exact le_trans (pow_ten_le_pow_two (by omega) (by omega)) hbounds.1
  have hhigh : Int.log 10 v.toRat < (k - 1) * 30103 / 100000 - 1 + 8 := by
    rw [← lt_pow_ten_iff hpos]
    exact lt_of_lt_of_le hbounds.2 (pow_two_le_pow_ten (by omega) (by omega))
  rw [go_eq hv.centre_pos v.den_pos, centre_div_den]
  · rw [centre_div_den]
    omega
  · rw [centre_div_den]
    exact hhigh

def steps (v : Binary) (grid : Int) : Nat :=
  v.interval.centre * tenTo (-grid).toNat / (v.interval.den * tenTo grid.toNat)

theorem steps_bounds (v : Binary) (grid : Int) :
    v.steps grid * 10 ^ grid ≤ v.toRat ∧ v.toRat < (v.steps grid + 1) * 10 ^ grid := by
  have hden : (0 : ℚ) < v.interval.den := by exact_mod_cast v.den_pos
  have hten : (0 : ℚ) < tenTo (-grid).toNat := by exact_mod_cast tenTo_pos _
  have hstep : 0 < v.interval.den * tenTo grid.toNat := Nat.mul_pos v.den_pos (tenTo_pos _)
  have hrat : v.toRat * (v.interval.den * tenTo (-grid).toNat) =
      v.interval.centre * tenTo (-grid).toNat := by
    rw [← centre_div_den]
    field_simp
  have hlow : (v.steps grid : ℚ) * (v.interval.den * tenTo grid.toNat) ≤
      v.interval.centre * tenTo (-grid).toNat := by
    exact_mod_cast Nat.div_mul_le_self _ _
  have hhigh : (v.interval.centre * tenTo (-grid).toNat : ℚ) <
      v.interval.den * tenTo grid.toNat * (v.steps grid + 1) := by
    exact_mod_cast Nat.lt_mul_div_succ _ hstep
  rw [tenTo_toNat grid, ← hrat] at hlow hhigh
  have hunit : (0 : ℚ) < v.interval.den * tenTo (-grid).toNat := mul_pos hden hten
  constructor
  · refine le_of_mul_le_mul_right ?_ hunit
    linarith
  · refine lt_of_mul_lt_mul_right ?_ hunit.le
    linarith

theorem pick_cases {v : Binary} {grid : Int} {n : Nat} (h : v.interval.pick grid = some n) :
    (n = v.steps grid ∨ n = v.steps grid + 1) ∧ v.interval.has n grid = true := by
  simp only [Interval.pick] at h
  split at h
  · next hboth =>
      rw [Bool.and_eq_true] at hboth
      split at h <;> cases h
      · exact ⟨.inl rfl, hboth.1⟩
      · exact ⟨.inr rfl, hboth.2⟩
  · split at h
    · next hbelow =>
        cases h
        exact ⟨.inl rfl, hbelow⟩
    · split at h
      · next habove =>
          cases h
          exact ⟨.inr rfl, habove⟩
      · cases h

theorem pick_isSome {v : Binary} {grid : Int}
    (h : v.interval.has (v.steps grid) grid = true ∨
      v.interval.has (v.steps grid + 1) grid = true) :
    (v.interval.pick grid).isSome := by
  simp only [Interval.pick]
  split
  · split <;> rfl
  · split
    · rfl
    · next hnot =>
        split
        · rfl
        · next hnot' => exact absurd h (not_or.2 ⟨hnot, hnot'⟩)

theorem Canonical.gaps (hv : v.Canonical) :
    v.toRat / 2 ^ 54 ≤ v.toRat - v.low ∧ v.toRat / 2 ^ 54 ≤ v.high - v.toRat := by
  have hfits : (v.mantissa : ℚ) ≤ 2 ^ 53 := by exact_mod_cast hv.fits.le
  have hunit : (0 : ℚ) < 2 ^ v.exponent := by positivity
  have hhalf : (v.mantissa : ℚ) * 2 ^ v.exponent / 2 ^ 54 ≤ 1 / 2 * 2 ^ v.exponent := by
    rw [div_le_iff₀ (by norm_num)]
    nlinarith
  constructor
  · have hlow : v.toRat - v.low = v.share * 2 ^ v.exponent := by
      rw [toRat, low]
      ring
    rw [hlow, toRat, share]
    split
    · next hnarrow =>
        have hman : (v.mantissa : ℚ) = 2 ^ 52 := by exact_mod_cast (hv.narrow.1 hnarrow).1
        rw [hman]
        exact le_of_eq (by ring)
    · exact hhalf
  · have hhigh : v.high - v.toRat = 1 / 2 * 2 ^ v.exponent := by
      rw [toRat, high]
      ring
    rw [hhigh]
    exact hhalf

theorem Canonical.pick_seventeen (hv : v.Canonical) :
    (v.interval.pick (Int.log 10 v.toRat + 1 - 17)).isSome := by
  have hpos := hv.toRat_pos
  have hfirst : (10 : ℚ) ^ Int.log 10 v.toRat ≤ v.toRat := (pow_ten_le_iff hpos _).2 le_rfl
  have hgrid : (10 : ℚ) ^ Int.log 10 v.toRat = 10 ^ 16 * 10 ^ (Int.log 10 v.toRat + 1 - 17) := by
    rw [← zpow_natCast, ← zpow_add₀ (by norm_num)]
    congr 1
    omega
  rw [hgrid] at hfirst
  generalize Int.log 10 v.toRat + 1 - 17 = grid at hfirst ⊢
  have hstep : (0 : ℚ) < 10 ^ grid := by positivity
  obtain ⟨hbelow, habove⟩ := v.steps_bounds grid
  obtain ⟨hlow, hhigh⟩ := hv.gaps
  refine pick_isSome ?_
  rw [interval_has_iff v hv.positive, interval_has_iff v hv.positive]
  rcases le_or_gt (2 * (v.toRat - v.steps grid * 10 ^ grid)) (10 ^ grid) with hnear | hfar
  · exact .inl (nears_of_lt (by linarith) (by linarith))
  · push_cast
    exact .inr (nears_of_lt (by linarith) (by linarith))

theorem Canonical.steps_log (hv : v.Canonical) {grid : Int} {k : Nat}
    (hgrid : grid + k = Int.log 10 v.toRat) :
    10 ^ k ≤ v.steps grid ∧ v.steps grid < 10 ^ (k + 1) := by
  have hpos := hv.toRat_pos
  have hstep : (0 : ℚ) < 10 ^ grid := by positivity
  have hfirst : (10 : ℚ) ^ (grid + k) ≤ v.toRat := (pow_ten_le_iff hpos _).2 (by omega)
  have hlast : v.toRat < (10 : ℚ) ^ (grid + (k + 1 : Nat)) :=
    (lt_pow_ten_iff hpos _).2 (by push_cast; omega)
  obtain ⟨hbelow, habove⟩ := v.steps_bounds grid
  rw [zpow_add₀ (by norm_num), zpow_natCast] at hfirst hlast
  have hlow : (10 : ℚ) ^ k < v.steps grid + 1 := by
    refine lt_of_mul_lt_mul_right ?_ hstep.le
    linarith
  have hhigh : (v.steps grid : ℚ) < 10 ^ (k + 1) := by
    refine lt_of_mul_lt_mul_right ?_ hstep.le
    linarith
  exact ⟨Nat.le_of_lt_succ (by exact_mod_cast hlow), by exact_mod_cast hhigh⟩

end Binary

namespace Digits

def toRat (d : Digits) : ℚ :=
  d.value * 10 ^ (d.point - 1 - Nat.log 10 d.value)

theorem toRat_of_log {n k : Nat} (hlow : 10 ^ k ≤ n) (hhigh : n < 10 ^ (k + 1)) (p : Int) :
    (⟨n, p⟩ : Digits).toRat = n * 10 ^ (p - (k + 1 : Nat)) := by
  have hne : n ≠ 0 := (lt_of_lt_of_le (by positivity) hlow).ne'
  have hlog : Nat.log 10 n = k := (Nat.log_eq_iff (.inr ⟨by decide, hne⟩)).2 ⟨hlow, hhigh⟩
  rw [toRat, hlog]
  congr 2
  push_cast
  ring

theorem toRat_one (k : Nat) (p : Int) :
    (⟨1, p + 1⟩ : Digits).toRat = (10 ^ k : Nat) * 10 ^ (p - k) := by
  rw [toRat_of_log (k := 0) (by decide) (by decide)]
  push_cast
  rw [← zpow_natCast, ← zpow_add₀ (by norm_num), one_mul]
  congr 1
  ring

theorem toRat_tens {n : Nat} (hn : n ≠ 0) (p : Int) :
    (⟨n * 10, p⟩ : Digits).toRat = (⟨n, p⟩ : Digits).toRat := by
  simp only [toRat]
  rw [Nat.log_mul_base (by decide) hn]
  push_cast
  rw [show p - 1 - (Nat.log 10 n : Int) = p - 1 - (Nat.log 10 n + 1) + 1 by ring,
    zpow_add_one₀ (by norm_num)]
  ring

theorem stripZeros_ne_zero {n : Nat} (hn : n ≠ 0) (fuel : Nat) : stripZeros fuel n ≠ 0 := by
  induction fuel generalizing n with
  | zero => exact hn
  | succ fuel ih =>
      rw [stripZeros]
      split
      · next h => exact ih (by simp at h; omega)
      · exact hn

theorem stripZeros_toRat {n : Nat} (hn : n ≠ 0) (fuel : Nat) (p : Int) :
    (⟨stripZeros fuel n, p⟩ : Digits).toRat = (⟨n, p⟩ : Digits).toRat := by
  induction fuel generalizing n with
  | zero => rfl
  | succ fuel ih =>
      rw [stripZeros]
      split
      · next h =>
          simp at h
          have hten : n = n / 10 * 10 := by omega
          rw [ih (by omega)]
          conv_rhs => rw [hten]
          rw [toRat_tens (by omega)]
      · rfl

end Digits

namespace Binary

variable {v : Binary}

def candidate (v : Binary) (k : Nat) : Option (Nat × Nat) :=
  (v.interval.pick (Int.log 10 v.toRat + 1 - (k + 1 : Nat))).map fun value => (value, k + 1)

theorem Canonical.exists_candidate (hv : v.Canonical) :
    ∃ k value, (List.range 17).findSome? v.candidate = some (value, k + 1) ∧
      v.interval.pick (Int.log 10 v.toRat + 1 - (k + 1 : Nat)) = some value := by
  cases hfound : (List.range 17).findSome? v.candidate with
  | none =>
      have hnone := List.findSome?_eq_none_iff.1 hfound 16 (by decide)
      have hpick : v.interval.pick (Int.log 10 v.toRat + 1 - 17) = none :=
        Option.map_eq_none_iff.1 hnone
      have hsome := hv.pick_seventeen
      rw [hpick] at hsome
      cases hsome
  | some found =>
      obtain ⟨k, -, hk⟩ := List.exists_of_findSome?_eq_some hfound
      obtain ⟨value, hpick, rfl⟩ := Option.map_eq_some_iff.1 hk
      exact ⟨k, value, rfl, hpick⟩

theorem Canonical.shortest_of_candidate (hv : v.Canonical) {value count : Nat}
    (h : (List.range 17).findSome? v.candidate = some (value, count)) :
    v.shortest = if value = 10 ^ count then ⟨1, Int.log 10 v.toRat + 1 + 1⟩
      else ⟨stripZeros 17 value, Int.log 10 v.toRat + 1⟩ := by
  unfold candidate at h
  simp only [shortest, hv.pointOf_eq, h, beq_iff_eq, tenTo_eq]

theorem Canonical.shortest_eq (hv : v.Canonical) :
    v.shortest.value ≠ 0 ∧ v.Nears v.shortest.toRat := by
  obtain ⟨k, value, hfound, hpick⟩ := hv.exists_candidate
  obtain ⟨hsteps, hhas⟩ := pick_cases hpick
  have hnears := (interval_has_iff v hv.positive _ _).1 hhas
  have hgrid : Int.log 10 v.toRat + 1 - (k + 1 : Nat) + k = Int.log 10 v.toRat := by
    push_cast
    ring
  have hcount := hv.steps_log hgrid
  rw [hv.shortest_of_candidate hfound]
  split
  · next hround =>
      rw [Digits.toRat_one (k + 1), ← hround]
      exact ⟨one_ne_zero, hnears⟩
  · next hround =>
      have hlow : 10 ^ k ≤ value := by omega
      have hhigh : value < 10 ^ (k + 1) := by omega
      have hne : value ≠ 0 := (lt_of_lt_of_le (by positivity) hlow).ne'
      rw [Digits.stripZeros_toRat hne, Digits.toRat_of_log hlow hhigh]
      exact ⟨Digits.stripZeros_ne_zero hne 17, hnears⟩

end Binary

end QueryShell.Decimal
