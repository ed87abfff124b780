import QueryShell.Proofs.Decimal.Rounding

namespace QueryShell.Decimal

/-- What is read of the floating-point number that is nearest to `q`, up to the sign. -/
inductive NearestTo (negative : Bool) (q : ℚ) : Reading → Prop where
  | zero : q ≤ 1 / 2 * 2 ^ (-1074 : Int) → NearestTo negative q (.finite negative ⟨0, -1074, false⟩)
  | finite {v : Binary} : v.Canonical → v.Nears q → NearestTo negative q (.finite negative v)
  | infinite : roundLimit ≤ q → NearestTo negative q (.infinite negative)

section

variable {negative : Bool} {q : ℚ} {r s : Reading} {v : Binary}

theorem half_least_lt_roundLimit : 1 / 2 * 2 ^ (-1074 : Int) < roundLimit := by
  have hscale : (2 : ℚ) ^ (-1074 : Int) ≤ 2 ^ (971 : Int) :=
    zpow_le_zpow_right₀ (by norm_num) (by norm_num)
  calc 1 / 2 * (2 : ℚ) ^ (-1074 : Int) ≤ 1 / 2 * 2 ^ (971 : Int) := by gcongr
    _ < roundLimit := mul_lt_mul_of_pos_right (by norm_num) (by positivity)

theorem NearestTo.unique (h : NearestTo negative q r) (h' : NearestTo negative q s) : r = s := by
  cases h with
  | zero hq =>
      cases h' with
      | zero _ => rfl
      | finite hw hwq => exact absurd (hw.half_least_lt hwq) (not_lt.2 hq)
      | infinite hq' => exact absurd (half_least_lt_roundLimit.trans_le hq') (not_lt.2 hq)
  | finite hv hvq =>
      cases h' with
      | zero hq => exact absurd (hv.half_least_lt hvq) (not_lt.2 hq)
      | finite hw hwq => rw [hvq.unique hv hw hwq]
      | infinite hq => exact absurd (hv.lt_roundLimit hvq) (not_lt.2 hq)
  | infinite hq =>
      cases h' with
      | zero hq' => exact absurd (half_least_lt_roundLimit.trans_le hq) (not_lt.2 hq')
      | finite hw hwq => exact absurd (hw.lt_roundLimit hwq) (not_lt.2 hq)
      | infinite _ => rfl

theorem Binary.Reads.nearestTo (h : v.Reads q) : NearestTo negative q (.finite negative v) := by
  rcases h with ⟨rfl, rfl⟩ | ⟨hv, hvq, -⟩
  · exact .zero (by positivity)
  · exact .finite hv hvq

end

section

variable {bits : UInt64}

theorem toBits_ofBits (h : Reading.ofBits bits ≠ .undefined) :
    (Float.ofBits bits).toBits = bits := by
  rw [ofBits_eq] at h
  rw [← UInt64.toBitVec_inj]
  refine Float.Model.UnpackedFloat.pack_unpack_of_valid (.mk fun hexponent hmantissa => ?_)
  refine absurd ?_ h
  have hmax : bits.toNat / 2 ^ 52 % 2 ^ 11 = 2047 := by
    simpa [Float.Model.UnpackedFloat.unpackExponent, BitVec.extractLsb, ← BitVec.toNat_inj,
      Nat.shiftRight_eq_div_pow] using hexponent
  have hfraction : bits.toNat % 2 ^ 52 ≠ 0 := by
    simpa [Float.Model.UnpackedFloat.unpackMantissa, BitVec.extractLsb, ← BitVec.toNat_inj]
      using hmantissa
  simp only [hmax, hfraction, if_true, if_false]

theorem read_ofBits (h : Reading.ofBits bits ≠ .undefined) :
    read (Float.ofBits bits) = Reading.ofBits bits := by
  rw [read, toBits_ofBits h]

end

section

variable {negative : Bool} {q : ℚ} {r : Reading}

theorem ofBits_ofNat (negative : Bool) (scale fraction : Nat) (hscale : scale < 2 ^ 11)
    (hfraction : fraction < 2 ^ 52) :
    Reading.ofBits (UInt64.ofNat ((if negative then 2 ^ 63 else 0) + scale * 2 ^ 52 + fraction)) =
      if scale = 2047 then if fraction = 0 then .infinite negative else .undefined
      else if scale = 0 then .finite negative ⟨fraction, -1074, false⟩
      else .finite negative
        ⟨2 ^ 52 + fraction, (scale : Int) - 1075, fraction == 0 && scale > 1⟩ := by
  have hbits : ∃ b, (if negative then 2 ^ 63 else 0) + scale * 2 ^ 52 + fraction = b ∧ b < 2 ^ 64 ∧
      (b / 2 ^ 63 == 1) = negative ∧ b / 2 ^ 52 % 2 ^ 11 = scale ∧ b % 2 ^ 52 = fraction := by
    refine ⟨_, rfl, ?_⟩
    cases negative with
    | false => simp only [Bool.false_eq_true, if_false, beq_eq_false_iff_ne]; omega
    | true => simp only [if_true, beq_iff_eq]; omega
  obtain ⟨b, hb, hlt, hnegative, hscaleOf, hfractionOf⟩ := hbits
  rw [hb, ofBits_eq, UInt64.toNat_ofNat', Nat.mod_eq_of_lt hlt]
  simp only [hnegative, hscaleOf, hfractionOf]

theorem Binary.Canonical.ofBits_bits {v : Binary} (hv : v.Canonical) (negative : Bool) :
    Reading.ofBits (UInt64.ofNat (Reading.finite negative v).bits) = .finite negative v := by
  obtain ⟨mantissa, exponent, narrow⟩ := v
  have hfits : mantissa < 2 ^ 53 := hv.fits
  have hleast : -1074 ≤ exponent := hv.least
  have hgreatest : exponent ≤ 971 := hv.greatest
  have hnarrow : narrow = true ↔ mantissa = 2 ^ 52 ∧ -1074 < exponent := hv.narrow
  by_cases hsmall : mantissa < 2 ^ 52
  · have hexponent : exponent = -1074 := by
      by_contra hmore
      exact absurd (hv.normal (show -1074 < exponent by omega)) (not_le.2 hsmall)
    subst hexponent
    have hwide : narrow = false := by
      rw [← Bool.not_eq_true, hnarrow]
      omega
    subst hwide
    exact ofBits_ofNat negative 0 mantissa (by decide) hsmall
  · have hread := ofBits_ofNat negative (exponent + 1075).toNat (mantissa - 2 ^ 52)
      (by omega) (by omega)
    have hsum : (exponent + 1074).toNat * 2 ^ 52 + mantissa =
        (exponent + 1075).toNat * 2 ^ 52 + (mantissa - 2 ^ 52) := by
      omega
    have hbits : (Reading.finite negative ⟨mantissa, exponent, narrow⟩).bits =
        (if negative then 2 ^ 63 else 0) + (exponent + 1075).toNat * 2 ^ 52 +
          (mantissa - 2 ^ 52) := by
      rw [bits_finite, Nat.add_assoc]
      exact congrArg _ hsum
    have hnarrow' : (mantissa - 2 ^ 52 == 0 && decide ((exponent + 1075).toNat > 1)) = narrow := by
      rw [Bool.eq_iff_iff, hnarrow]
      simp only [Bool.and_eq_true, beq_iff_eq, decide_eq_true_eq]
      omega
    have hmax : (exponent + 1075).toNat ≠ 2047 := by omega
    have hzero : (exponent + 1075).toNat ≠ 0 := by omega
    have hmantissa : 2 ^ 52 + (mantissa - 2 ^ 52) = mantissa := by omega
    have hexponent : ((exponent + 1075).toNat : Int) - 1075 = exponent := by omega
    rw [hbits, hread, if_neg hmax, if_neg hzero, hnarrow', hmantissa, hexponent]

theorem NearestTo.ofBits_bits (h : NearestTo negative q r) :
    Reading.ofBits (UInt64.ofNat r.bits) = r := by
  cases h with
  | zero _ => exact ofBits_ofNat negative 0 0 (by decide) (by decide)
  | finite hv _ => exact hv.ofBits_bits negative
  | infinite _ => exact ofBits_ofNat negative 2047 0 (by decide) (by decide)

theorem NearestTo.read_eq (h : NearestTo negative q r) :
    read (Float.ofBits (UInt64.ofNat r.bits)) = r := by
  rw [read_ofBits, h.ofBits_bits]
  rw [h.ofBits_bits]
  cases h <;> simp

end

section

variable {q : ℚ} {m : Nat} {e : Int}

theorem carried_bits (m : Nat) (he : -1074 ≤ e) :
    ((carried m e).exponent + 1074).toNat * 2 ^ 52 + (carried m e).mantissa =
      (e + 1074).toNat * 2 ^ 52 + m := by
  by_cases hfull : m = 2 ^ 53
  · subst hfull
    have hup : (e + 1 + 1074).toNat = (e + 1074).toNat + 1 := by omega
    simp only [carried_full, hup]
    omega
  · rw [carried_fitting hfull]

theorem Binary.Canonical.bits_lt {v : Binary} (hv : v.Canonical) :
    (v.exponent + 1074).toNat * 2 ^ 52 + v.mantissa < infinityBits := by
  have hfits := hv.fits
  have hgreatest := hv.greatest
  rw [infinityBits, twoTo_eq]
  omega

theorem RoundsTo.eq_zero (h : RoundsTo q m e) (hq : q ≤ 1 / 2 * 2 ^ (-1074 : Int)) :
    m = 0 ∧ e = -1074 := by
  have hgap : (0 : ℚ) < 2 ^ (-1074 : Int) := by positivity
  have he : e = -1074 := by
    by_contra hmore
    have hstep : (2 : ℚ) ^ (-1074 : Int) ≤ 2 ^ e := zpow_le_zpow_right₀ (by norm_num) h.least
    have hnormal := h.normal (by have := h.least; omega)
    linarith
  subst he
  refine ⟨?_, rfl⟩
  have hlow := h.low
  have hodd := h.odd
  generalize (2 : ℚ) ^ (-1074 : Int) = g at *
  by_contra hpos
  rcases Nat.mod_two_eq_zero_or_one m with heven | hone
  · have hman : (2 : ℚ) ≤ m := by
      have hnat : 2 ≤ m := by omega
      exact_mod_cast hnat
    nlinarith
  · have hman : (1 : ℚ) ≤ m := by
      have hnat : 1 ≤ m := by omega
      exact_mod_cast hnat
    have hless := (hodd hone).1
    nlinarith

theorem RoundsTo.overflows (h : RoundsTo q m e) (hq : roundLimit ≤ q) :
    infinityBits ≤ (e + 1074).toNat * 2 ^ 52 + m := by
  have he : 971 ≤ e := by
    by_contra hless
    have hstep : (2 : ℚ) ^ e ≤ 2 ^ (970 : Int) := zpow_le_zpow_right₀ (by norm_num) (by omega)
    have hdouble : (2 : ℚ) ^ (971 : Int) = 2 * 2 ^ (970 : Int) := by
      rw [show (971 : Int) = 970 + 1 by norm_num, zpow_add_one₀ (by norm_num), mul_comm]
    have hbelow : q < 2 ^ 53 * 2 ^ (970 : Int) := h.below.trans_le (by gcongr)
    have hgap : (0 : ℚ) < 2 ^ (970 : Int) := by positivity
    rw [roundLimit, hdouble] at hq
    generalize (2 : ℚ) ^ (970 : Int) = g at hq hbelow hgap
    linarith only [hq, hbelow, hgap]
  have hnormal := h.mantissa_ge (by omega)
  rw [infinityBits, twoTo_eq]
  by_cases hmore : 971 < e
  · omega
  · obtain rfl : e = 971 := by omega
    have hgap : (0 : ℚ) < 2 ^ (971 : Int) := by positivity
    have hfull : 2 ^ 53 ≤ m := by
      by_contra hless
      rcases Nat.mod_two_eq_zero_or_one m with heven | hone
      · have hman : (m : ℚ) + 2 ≤ 2 ^ 53 := by
          have hnat : m + 2 ≤ 2 ^ 53 := by omega
          exact_mod_cast hnat
        have hmost : (m + 1 / 2) * (2 : ℚ) ^ (971 : Int) < roundLimit :=
          mul_lt_mul_of_pos_right (by linarith) hgap
        exact absurd (hq.trans h.high) (not_le.2 hmost)
      · have hman : (m : ℚ) + 1 ≤ 2 ^ 53 := by
          have hnat : m + 1 ≤ 2 ^ 53 := by omega
          exact_mod_cast hnat
        have hmost : (m + 1 / 2) * (2 : ℚ) ^ (971 : Int) ≤ roundLimit :=
          mul_le_mul_of_nonneg_right (by linarith) hgap.le
        exact absurd ((h.odd hone).2.trans_le hmost) (not_lt.2 hq)
    omega

theorem RoundsTo.exists_nearestTo (h : RoundsTo q m e) (negative : Bool) :
    ∃ r, NearestTo negative q r ∧ r.bits =
      (if negative then 2 ^ 63 else 0) + min ((e + 1074).toNat * 2 ^ 52 + m) infinityBits := by
  by_cases hsmall : q ≤ 1 / 2 * 2 ^ (-1074 : Int)
  · obtain ⟨rfl, rfl⟩ := h.eq_zero hsmall
    exact ⟨_, .zero hsmall, rfl⟩
  · by_cases hlarge : roundLimit ≤ q
    · refine ⟨_, .infinite hlarge, ?_⟩
      rw [min_eq_right (h.overflows hlarge)]
      rfl
    · have hv := h.canonical (h.mantissa_pos (not_le.1 hsmall)) (not_le.1 hlarge)
      refine ⟨_, .finite hv h.nears, ?_⟩
      have hbits := carried_bits m h.least
      have hlt := hv.bits_lt
      rw [hbits] at hlt
      rw [bits_finite, hbits, min_eq_left hlt.le]

end

section

variable {digits : List Nat}

theorem exists_magnitude {ds : List Nat} (hsmall : ∀ d ∈ ds, d < 10) (hfirst : ds.head? ≠ some 0)
    (negative : Bool) (power : Int) :
    ∃ r, NearestTo negative (Text.spelled 10 ds * 10 ^ power) r ∧
      r.bits = (if negative then 2 ^ 63 else 0) +
        if Text.spelled 10 ds == 0 || ds.length + power < -400 then 0
        else if 400 < ds.length + power then infinityBits
        else nearestBits (Text.spelled 10 ds * tenTo power.toNat) (tenTo (-power).toNat) := by
  by_cases hnone : Text.spelled 10 ds = 0 ∨ ds.length + power < -400
  · have hguard : (Text.spelled 10 ds == 0 || ds.length + power < -400) = true := by
      simpa using hnone
    rw [hguard]
    refine ⟨_, .zero ?_, rfl⟩
    rcases hnone with hzero | hlow
    · rw [hzero, Nat.cast_zero, zero_mul]
      positivity
    · have hstep : (10 : ℚ) ^ (ds.length + power) ≤ 10 ^ (-400 : Int) :=
        zpow_le_zpow_right₀ (by norm_num) hlow.le
      exact ((decimal_lt hsmall power).le.trans hstep).trans half_least_ge
  · have hguard : (Text.spelled 10 ds == 0 || ds.length + power < -400) = false := by
      simpa using hnone
    rw [hguard, if_neg Bool.false_ne_true]
    obtain ⟨hne, -⟩ := not_or.1 hnone
    by_cases hhigh : 400 < ds.length + power
    · rw [if_pos hhigh]
      refine ⟨_, .infinite ?_, rfl⟩
      cases ds with
      | nil => exact absurd rfl hne
      | cons d ds =>
          have hd : d ≠ 0 := by simpa using hfirst
          have hstep : (10 : ℚ) ^ (400 : Int) ≤ 10 ^ (((d :: ds).length : Int) + power - 1) :=
            zpow_le_zpow_right₀ (by norm_num) (by omega)
          exact (roundLimit_le.trans hstep).trans (le_decimal ds hd power)
    · have hnum : 0 < Text.spelled 10 ds * tenTo power.toNat :=
        Nat.mul_pos (Nat.pos_of_ne_zero hne) (tenTo_pos _)
      have hrounds := roundsTo_quotient hnum (tenTo_pos (-power).toNat)
      rw [decimal_ratio] at hrounds
      rw [if_neg hhigh]
      exact hrounds.exists_nearestTo negative

theorem exists_nearestTo (hdigits : ∀ d ∈ digits, d < 10) (negative : Bool) (power : Int) :
    ∃ r, NearestTo negative (Text.spelled 10 digits * 10 ^ power) r ∧
      nearest negative digits power = Float.ofBits (UInt64.ofNat r.bits) := by
  have hsmall : ∀ d ∈ digits.dropWhile (· == 0), d < 10 :=
    fun d hd => hdigits d ((List.dropWhile_sublist _).mem hd)
  have hfirst : (digits.dropWhile (· == 0)).head? ≠ some 0 := by
    intro hzero
    have hnot := List.head?_dropWhile_not (· == 0) digits
    simp [hzero] at hnot
  obtain ⟨r, hr, hbits⟩ := exists_magnitude hsmall hfirst negative power
  rw [spelled_dropWhile] at hr
  refine ⟨r, hr, ?_⟩
  rw [hbits, nearest, twoTo_eq]

theorem nearestTo_iff (hdigits : ∀ d ∈ digits, d < 10) {negative : Bool} {power : Int} {x : Float} :
    NearestTo negative (Text.spelled 10 digits * 10 ^ power) (read x) ↔
      nearest negative digits power = x := by
  obtain ⟨r, hr, hnearest⟩ := exists_nearestTo hdigits negative power
  have hread : read (nearest negative digits power) = r := by rw [hnearest, hr.read_eq]
  constructor
  · intro hx
    exact read_inj (hread.trans (hr.unique hx))
  · rintro rfl
    rwa [hread]

end

theorem toFloat_eq {x : Float} {w : Written} {v : Binary} (h : read x = .finite w.negative v)
    (hdigits : ∀ d ∈ w.whole ++ w.fraction, d < 10) (hw : v.Reads w.toRat) : w.toFloat = x := by
  refine (nearestTo_iff hdigits).1 ?_
  rw [h]
  exact hw.nearestTo

theorem exists_written {x : Float} (h : isFinite x = true) :
    ∃ w, Written.ofChars? (shellStyle.chars x) = some w ∧ w.toFloat = x := by
  have hshows := shows_chars x
  unfold isFinite at h
  generalize hread : read x = r at h hshows
  generalize shellStyle.chars x = text at hshows
  cases hshows with
  | undefined => cases h
  | infinite => cases h
  | finite negative hv hq =>
      obtain ⟨w, hw, rfl, hdigits, rfl⟩ := hq.read negative
      exact ⟨w, hw, toFloat_eq hread hdigits hv⟩

end QueryShell.Decimal
