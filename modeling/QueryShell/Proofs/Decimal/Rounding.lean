import QueryShell.Proofs.Decimal.Notation

namespace QueryShell.Decimal

theorem roundedQuotient_bounds (num : Nat) {den : Nat} (hden : 0 < den) :
    2 * roundedQuotient num den * den ≤ 2 * num + den ∧
      2 * num ≤ 2 * roundedQuotient num den * den + den ∧
      (roundedQuotient num den % 2 = 1 →
        2 * roundedQuotient num den * den < 2 * num + den ∧
          2 * num < 2 * roundedQuotient num den * den + den) := by
  have hsplit : num / den * den + num % den = num := by
    rw [Nat.mul_comm]
    exact Nat.div_add_mod num den
  have hrest := Nat.mod_lt num hden
  have hbelow : 2 * (num / den) * den = 2 * (num / den * den) := by ring
  have habove : 2 * (num / den + 1) * den = 2 * (num / den * den) + 2 * den := by ring
  simp only [roundedQuotient, Bool.or_eq_true, Bool.and_eq_true, decide_eq_true_eq, beq_iff_eq]
  split
  · rw [hbelow]
    omega
  · rw [habove]
    omega

section

variable {num den : Nat}

theorem roundedQuotient_near (num : Nat) (hden : 0 < den) :
    (roundedQuotient num den - 1 / 2 : ℚ) ≤ num / den ∧
      (num / den : ℚ) ≤ roundedQuotient num den + 1 / 2 ∧
      (roundedQuotient num den % 2 = 1 → (roundedQuotient num den - 1 / 2 : ℚ) < num / den ∧
        (num / den : ℚ) < roundedQuotient num den + 1 / 2) := by
  obtain ⟨hlow, hhigh, hodd⟩ := roundedQuotient_bounds num hden
  have hpos : (0 : ℚ) < den := by exact_mod_cast hden
  generalize roundedQuotient num den = m at *
  rw [le_div_iff₀ hpos, div_le_iff₀ hpos, lt_div_iff₀ hpos, div_lt_iff₀ hpos]
  have hlow' : (2 * m * den : ℚ) ≤ 2 * num + den := by exact_mod_cast hlow
  have hhigh' : (2 * num : ℚ) ≤ 2 * m * den + den := by exact_mod_cast hhigh
  refine ⟨by linarith, by linarith, fun h => ?_⟩
  have hlow'' : (2 * m * den : ℚ) < 2 * num + den := by exact_mod_cast (hodd h).1
  have hhigh'' : (2 * num : ℚ) < 2 * m * den + den := by exact_mod_cast (hodd h).2
  exact ⟨by linarith, by linarith⟩

theorem scaled_quotient (num : Nat) {den : Nat} (e : Int) :
    ((num * twoTo (-e).toNat : Nat) / (den * twoTo e.toNat : Nat) : ℚ) = num / den / 2 ^ e := by
  have hunit : (twoTo (-e).toNat : ℚ) ≠ 0 := by exact_mod_cast (twoTo_pos (-e).toNat).ne'
  push_cast
  rw [twoTo_toNat e, ← mul_assoc, mul_div_mul_right _ _ hunit, div_div]

theorem lt_two_zpow_iff (hden : 0 < den) (e : Int) :
    num * twoTo (-e).toNat < den * twoTo e.toNat ↔ (num / den : ℚ) < 2 ^ e := by
  have hpos : (0 : ℚ) < den := by exact_mod_cast hden
  have hunit : (0 : ℚ) < twoTo (-e).toNat := by exact_mod_cast twoTo_pos (-e).toNat
  rw [div_lt_iff₀ hpos, ← Nat.cast_lt (α := ℚ)]
  push_cast
  rw [twoTo_toNat e, ← mul_assoc, mul_lt_mul_iff_left₀ hunit, mul_comm]

theorem log2_bounds {n : Nat} (hn : 0 < n) :
    (2 : ℚ) ^ (n.log2 : Int) ≤ n ∧ (n : ℚ) < 2 ^ ((n.log2 : Int) + 1) := by
  have hlow := Nat.log2_self_le hn.ne'
  have hhigh := Nat.lt_log2_self (n := n)
  constructor
  · rw [zpow_natCast]
    exact_mod_cast hlow
  · rw [← Nat.cast_succ, zpow_natCast]
    exact_mod_cast hhigh

theorem quotient_log2_bounds (hnum : 0 < num) (hden : 0 < den) :
    (2 : ℚ) ^ ((num.log2 : Int) - den.log2 - 1) < num / den ∧
      (num / den : ℚ) < 2 ^ ((num.log2 : Int) - den.log2 + 1) := by
  obtain ⟨hlow, hhigh⟩ := log2_bounds hnum
  obtain ⟨hlow', hhigh'⟩ := log2_bounds hden
  have hpos : (0 : ℚ) < den := by exact_mod_cast hden
  have hpos' : (0 : ℚ) < num := by exact_mod_cast hnum
  constructor
  · rw [lt_div_iff₀ hpos]
    calc (2 : ℚ) ^ ((num.log2 : Int) - den.log2 - 1) * den
        < 2 ^ ((num.log2 : Int) - den.log2 - 1) * 2 ^ ((den.log2 : Int) + 1) := by gcongr
      _ = 2 ^ (num.log2 : Int) := by
          rw [← zpow_add₀ (by norm_num)]
          congr 1
          ring
      _ ≤ num := hlow
  · rw [div_lt_iff₀ hpos]
    calc (num : ℚ) < 2 ^ ((num.log2 : Int) + 1) := hhigh
      _ = 2 ^ ((num.log2 : Int) - den.log2 + 1) * 2 ^ (den.log2 : Int) := by
          rw [← zpow_add₀ (by norm_num)]
          congr 1
          ring
      _ ≤ 2 ^ ((num.log2 : Int) - den.log2 + 1) * den := by gcongr

theorem two_zpow_add (e : Int) (n : Nat) : (2 : ℚ) ^ (e + n) = 2 ^ n * 2 ^ e := by
  rw [zpow_add₀ (by norm_num), zpow_natCast, mul_comm]

theorem exponentOf_bounds (hnum : 0 < num) (hden : 0 < den) :
    -1074 ≤ exponentOf num den ∧ (num / den : ℚ) < 2 ^ 53 * 2 ^ exponentOf num den ∧
      (-1074 < exponentOf num den → 2 ^ 52 * 2 ^ exponentOf num den ≤ (num / den : ℚ)) := by
  rw [← two_zpow_add, ← two_zpow_add]
  push_cast
  obtain ⟨hlow, hhigh⟩ := quotient_log2_bounds hnum hden
  unfold exponentOf
  generalize (num.log2 : Int) - den.log2 = g at *
  have hsmall : num * twoTo (-(g - 53 + 53)).toNat < den * twoTo (g - 53 + 53).toNat ↔
      (num / den : ℚ) < 2 ^ (g - 53 + 53) := lt_two_zpow_iff hden _
  have hchosen : ∃ e : Int, (if num * twoTo (-(g - 53 + 53)).toNat < den * twoTo (g - 53 + 53).toNat
      then g - 53 else g - 53 + 1) = e ∧ (num / den : ℚ) < 2 ^ (e + 53) ∧
        (2 : ℚ) ^ (e + 52) ≤ num / den := by
    split
    · next h =>
        refine ⟨_, rfl, hsmall.1 h, ?_⟩
        rw [show g - 53 + 52 = g - 1 by ring]
        exact hlow.le
    · next h =>
        refine ⟨_, rfl, ?_, ?_⟩
        · rw [show g - 53 + 1 + 53 = g + 1 by ring]
          exact hhigh
        · rw [show g - 53 + 1 + 52 = g - 53 + 53 by ring]
          exact not_lt.1 fun hlt => h (hsmall.2 hlt)
  obtain ⟨e, he, hbelow, habove⟩ := hchosen
  simp only [he]
  refine ⟨le_max_right _ _, ?_, fun hmore => ?_⟩
  · calc (num / den : ℚ) < 2 ^ (e + 53) := hbelow
      _ ≤ 2 ^ (max e (-1074) + 53) := zpow_le_zpow_right₀ (by norm_num) (by omega)
  · rwa [show max e (-1074) = e by omega]

end

structure RoundsTo (q : ℚ) (m : Nat) (e : Int) : Prop where
  least : -1074 ≤ e
  below : q < 2 ^ 53 * 2 ^ e
  normal : -1074 < e → 2 ^ 52 * 2 ^ e ≤ q
  low : (m - 1 / 2) * 2 ^ e ≤ q
  high : q ≤ (m + 1 / 2) * 2 ^ e
  odd : m % 2 = 1 → (m - 1 / 2) * 2 ^ e < q ∧ q < (m + 1 / 2) * 2 ^ e

theorem roundsTo_quotient {num den : Nat} (hnum : 0 < num) (hden : 0 < den) :
    RoundsTo (num / den)
      (roundedQuotient (num * twoTo (-exponentOf num den).toNat)
        (den * twoTo (exponentOf num den).toNat))
      (exponentOf num den) := by
  obtain ⟨hleast, hbelow, hnormal⟩ := exponentOf_bounds hnum hden
  generalize exponentOf num den = e at *
  have hscaled : 0 < den * twoTo e.toNat := Nat.mul_pos hden (twoTo_pos _)
  have hgap : (0 : ℚ) < 2 ^ e := by positivity
  obtain ⟨hlow, hhigh, hodd⟩ := roundedQuotient_near (num * twoTo (-e).toNat) hscaled
  rw [scaled_quotient] at hlow hhigh hodd
  exact {
    least := hleast
    below := hbelow
    normal := hnormal
    low := (le_div_iff₀ hgap).1 hlow
    high := (div_le_iff₀ hgap).1 hhigh
    odd := fun h => ⟨(lt_div_iff₀ hgap).1 (hodd h).1, (div_lt_iff₀ hgap).1 (hodd h).2⟩ }

def carried (m : Nat) (e : Int) : Binary :=
  if m = 2 ^ 53 then ⟨2 ^ 52, e + 1, true⟩ else ⟨m, e, m == 2 ^ 52 && -1074 < e⟩

theorem carried_full (e : Int) : carried (2 ^ 53) e = ⟨2 ^ 52, e + 1, true⟩ :=
  if_pos rfl

theorem carried_fitting {m : Nat} (hm : m ≠ 2 ^ 53) (e : Int) :
    carried m e = ⟨m, e, m == 2 ^ 52 && -1074 < e⟩ :=
  if_neg hm

section

variable {q : ℚ} {m : Nat} {e : Int}

theorem RoundsTo.mantissa_le (h : RoundsTo q m e) : m ≤ 2 ^ 53 := by
  have hgap : (0 : ℚ) < 2 ^ e := by positivity
  have hbound := lt_of_le_of_lt h.low h.below
  have hlt : (m : ℚ) < 2 ^ 53 + 1 := by linarith [lt_of_mul_lt_mul_right hbound hgap.le]
  have hnat : m < 2 ^ 53 + 1 := by exact_mod_cast hlt
  omega

theorem RoundsTo.mantissa_ge (h : RoundsTo q m e) (he : -1074 < e) : 2 ^ 52 ≤ m := by
  have hgap : (0 : ℚ) < 2 ^ e := by positivity
  have hbound := (h.normal he).trans h.high
  have hlt : (2 ^ 52 : ℚ) < m + 1 := by linarith [le_of_mul_le_mul_right hbound hgap]
  have hnat : 2 ^ 52 < m + 1 := by exact_mod_cast hlt
  omega

theorem RoundsTo.nears (h : RoundsTo q m e) : (carried m e).Nears q := by
  have hgap : (0 : ℚ) < 2 ^ e := by positivity
  by_cases hfull : m = 2 ^ 53
  · subst hfull
    have hup : (2 : ℚ) ^ (e + 1) = 2 * 2 ^ e := by
      rw [zpow_add_one₀ (by norm_num), mul_comm]
    have hlow := h.low
    have hbelow := h.below
    rw [carried_full, Binary.Nears, if_pos (by norm_num), Binary.low, Binary.high, Binary.share,
      if_pos rfl, hup]
    push_cast at hlow ⊢
    constructor <;> linarith
  · rw [carried_fitting hfull]
    by_cases hnarrow : m = 2 ^ 52 ∧ -1074 < e
    · obtain ⟨rfl, he⟩ := hnarrow
      have hnormal := h.normal he
      have hhigh := h.high
      rw [Binary.Nears, if_pos (by norm_num), Binary.low, Binary.high, Binary.share,
        if_pos (by simp [he])]
      push_cast at hhigh ⊢
      constructor <;> linarith
    · have hshare : (⟨m, e, m == 2 ^ 52 && -1074 < e⟩ : Binary).share = 1 / 2 :=
        if_neg (by simpa using hnarrow)
      rw [Binary.Nears, Binary.low, Binary.high, hshare]
      split
      · exact ⟨h.low, h.high⟩
      · next hodd => exact h.odd (by simpa using hodd)

def roundLimit : ℚ :=
  (2 ^ 53 - 1 / 2) * 2 ^ (971 : Int)

theorem lt_of_two_zpow_lt {a b : Int} {c : ℚ} (h : c * 2 ^ a < c * 2 ^ b) (hc : 0 < c) : a < b :=
  (zpow_lt_zpow_iff_right₀ (by norm_num)).1 (lt_of_mul_lt_mul_left h hc.le)

theorem RoundsTo.exponent_le (h : RoundsTo q m e) (hlimit : q < roundLimit) : e ≤ 971 := by
  by_contra hlarge
  have hnormal := h.normal (by omega)
  have hup : 2 * (2 : ℚ) ^ (971 : Int) ≤ 2 ^ e := by
    rw [mul_comm, ← zpow_add_one₀ (by norm_num)]
    exact zpow_le_zpow_right₀ (by norm_num) (by omega)
  have hgap : (0 : ℚ) < 2 ^ (971 : Int) := by positivity
  unfold roundLimit at hlimit
  generalize (2 : ℚ) ^ (971 : Int) = g at *
  linarith

theorem RoundsTo.canonical (h : RoundsTo q m e) (hpos : 0 < m) (hlimit : q < roundLimit) :
    (carried m e).Canonical := by
  have hle := h.mantissa_le
  have hleast := h.least
  have hgreatest := h.exponent_le hlimit
  by_cases hfull : m = 2 ^ 53
  · subst hfull
    have hbelow : e < 971 := by
      have hlt := lt_of_le_of_lt h.low hlimit
      push_cast at hlt
      exact lt_of_two_zpow_lt hlt (by norm_num)
    rw [carried_full]
    exact {
      positive := by norm_num
      fits := by norm_num
      least := by simp; omega
      greatest := by simp; omega
      normal := fun _ => le_rfl
      narrow := by simp; omega }
  · rw [carried_fitting hfull]
    exact {
      positive := hpos
      fits := by simp; omega
      least := hleast
      greatest := hgreatest
      normal := h.mantissa_ge
      narrow := by simp }

theorem Binary.Canonical.lt_roundLimit {v : Binary} (hv : v.Canonical) (hvq : v.Nears q) :
    q < roundLimit := by
  have hfits := hv.fits
  have hscale : (2 : ℚ) ^ v.exponent ≤ 2 ^ (971 : Int) :=
    zpow_le_zpow_right₀ (by norm_num) hv.greatest
  have hgap : (0 : ℚ) < 2 ^ v.exponent := by positivity
  have hhigh : ∀ c : ℚ, v.mantissa + 1 / 2 ≤ c → v.high ≤ c * 2 ^ (971 : Int) := by
    intro c hc
    have hpos : (0 : ℚ) ≤ v.mantissa := Nat.cast_nonneg _
    exact mul_le_mul hc hscale hgap.le (by linarith)
  rcases Nat.mod_two_eq_zero_or_one v.mantissa with heven | hodd
  · have hman : (v.mantissa : ℚ) + 2 ≤ 2 ^ 53 := by
      have hnat : v.mantissa + 2 ≤ 2 ^ 53 := by omega
      exact_mod_cast hnat
    calc q ≤ v.high := hvq.bounds.2
      _ ≤ (2 ^ 53 - 3 / 2) * 2 ^ (971 : Int) := hhigh _ (by linarith)
      _ < roundLimit := mul_lt_mul_of_pos_right (by norm_num) (by positivity)
  · have hman : (v.mantissa : ℚ) + 1 ≤ 2 ^ 53 := by exact_mod_cast hfits
    calc q < v.high := (hvq.odd (by omega)).2
      _ ≤ roundLimit := hhigh _ (by linarith)

theorem Binary.Canonical.half_least_lt {v : Binary} (hv : v.Canonical) (hvq : v.Nears q) :
    1 / 2 * 2 ^ (-1074 : Int) < q := by
  have hpos := hv.positive
  have hscale : (2 : ℚ) ^ (-1074 : Int) ≤ 2 ^ v.exponent :=
    zpow_le_zpow_right₀ (by norm_num) hv.least
  have hgap : (0 : ℚ) < 2 ^ (-1074 : Int) := by positivity
  have hlow : ∀ c : ℚ, 0 ≤ c → c + 1 / 2 ≤ v.mantissa → c * 2 ^ (-1074 : Int) ≤ v.low := by
    intro c hc hman
    have hshare := v.share_le
    exact mul_le_mul (by linarith) hscale hgap.le (by linarith)
  rcases Nat.mod_two_eq_zero_or_one v.mantissa with heven | hodd
  · have hman : (2 : ℚ) ≤ v.mantissa := by
      have hnat : 2 ≤ v.mantissa := by omega
      exact_mod_cast hnat
    calc 1 / 2 * (2 : ℚ) ^ (-1074 : Int) < 3 / 2 * 2 ^ (-1074 : Int) :=
          mul_lt_mul_of_pos_right (by norm_num) hgap
      _ ≤ v.low := hlow _ (by norm_num) (by linarith)
      _ ≤ q := hvq.bounds.1
  · have hman : (1 : ℚ) ≤ v.mantissa := by exact_mod_cast hpos
    calc 1 / 2 * (2 : ℚ) ^ (-1074 : Int) ≤ v.low := hlow _ (by norm_num) (by linarith)
      _ < q := (hvq.odd (by omega)).1

theorem RoundsTo.mantissa_pos (h : RoundsTo q m e) (hq : 1 / 2 * 2 ^ (-1074 : Int) < q) :
    0 < m := by
  refine Nat.pos_of_ne_zero fun hzero => ?_
  subst hzero
  have he : e = -1074 := by
    have hleast := h.least
    by_contra hmore
    exact absurd (h.mantissa_ge (by omega)) (by norm_num)
  have hhigh := h.high
  rw [he, Nat.cast_zero, zero_add] at hhigh
  exact absurd hq (not_lt.2 hhigh)

theorem bits_finite (negative : Bool) (v : Binary) :
    (Reading.finite negative v).bits = (if negative then 2 ^ 63 else 0) +
      ((v.exponent + 1074).toNat * 2 ^ 52 + v.mantissa) := by
  rw [Reading.bits, Nat.add_assoc]

end

theorem spelled_dropWhile (ds : List Nat) :
    Text.spelled 10 (ds.dropWhile (· == 0)) = Text.spelled 10 ds := by
  induction ds with
  | nil => rfl
  | cons d ds ih =>
      rw [List.dropWhile_cons]
      split
      · next hzero =>
          rw [ih, beq_iff_eq.1 hzero]
          rfl
      · rfl

theorem spelled_cons (d : Nat) (ds : List Nat) :
    Text.spelled 10 (d :: ds) = d * 10 ^ ds.length + Text.spelled 10 ds := by
  have h := Text.spelled_append 10 [d] ds
  simpa [Text.spelled] using h

theorem spelled_lt {ds : List Nat} (h : ∀ d ∈ ds, d < 10) :
    Text.spelled 10 ds < 10 ^ ds.length := by
  induction ds with
  | nil => simp [Text.spelled]
  | cons d ds ih =>
      obtain ⟨hd, hds⟩ := List.forall_mem_cons.1 h
      have hrest := ih hds
      rw [spelled_cons, List.length_cons, Nat.pow_succ]
      nlinarith

theorem le_spelled {d : Nat} (ds : List Nat) (hd : d ≠ 0) :
    10 ^ ds.length ≤ Text.spelled 10 (d :: ds) := by
  rw [spelled_cons]
  have hone : 1 * 10 ^ ds.length ≤ d * 10 ^ ds.length := Nat.mul_le_mul_right _ (by omega)
  omega

theorem decimal_ratio (digits : Nat) (power : Int) :
    ((digits * tenTo power.toNat : Nat) / (tenTo (-power).toNat : Nat) : ℚ) =
      digits * 10 ^ power := by
  have hunit : (tenTo (-power).toNat : ℚ) ≠ 0 := by exact_mod_cast (tenTo_pos _).ne'
  push_cast
  rw [tenTo_toNat, ← mul_assoc, mul_div_cancel_right₀ _ hunit]

theorem decimal_lt {ds : List Nat} (h : ∀ d ∈ ds, d < 10) (power : Int) :
    (Text.spelled 10 ds * 10 ^ power : ℚ) < 10 ^ (ds.length + power) := by
  have hlt : (Text.spelled 10 ds : ℚ) < 10 ^ ds.length := by exact_mod_cast spelled_lt h
  rw [zpow_add₀ (by norm_num), zpow_natCast]
  exact mul_lt_mul_of_pos_right hlt (by positivity)

theorem le_decimal {d : Nat} (ds : List Nat) (hd : d ≠ 0) (power : Int) :
    (10 : ℚ) ^ (((d :: ds).length : Int) + power - 1) ≤
      Text.spelled 10 (d :: ds) * 10 ^ power := by
  have hle : (10 : ℚ) ^ ds.length ≤ Text.spelled 10 (d :: ds) := by exact_mod_cast le_spelled ds hd
  rw [List.length_cons, show ((ds.length + 1 : Nat) : Int) + power - 1 = ds.length + power by
    push_cast; ring, zpow_add₀ (by norm_num), zpow_natCast]
  exact mul_le_mul_of_nonneg_right hle (by positivity)

theorem half_least_ge : (10 : ℚ) ^ (-400 : Int) ≤ 1 / 2 * 2 ^ (-1074 : Int) := by
  have hhalf : 1 / 2 * (2 : ℚ) ^ (-1074 : Int) = 2 ^ (-1075 : Int) := by
    rw [show (-1075 : Int) = -1074 - 1 by norm_num, zpow_sub_one₀ (by norm_num)]
    ring
  rw [hhalf]
  exact pow_ten_le_pow_two (by norm_num) (by norm_num)

theorem roundLimit_le : roundLimit ≤ 10 ^ (400 : Int) := by
  calc roundLimit ≤ 2 ^ 53 * 2 ^ (971 : Int) :=
        mul_le_mul_of_nonneg_right (by norm_num) (by positivity)
    _ = 2 ^ (971 + (53 : Nat) : Int) := (two_zpow_add 971 53).symm
    _ ≤ 10 ^ (400 : Int) := pow_two_le_pow_ten (by norm_num) (by norm_num)

end QueryShell.Decimal
