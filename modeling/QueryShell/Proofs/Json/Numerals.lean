import QueryShell.Proofs.Decimal.Nearest
import QueryShell.Proofs.Json.ReadBack

namespace QueryShell.Json

open Decimal (digitChars withSign zeros)
open Statement (Digits Exponent Fraction)

structure Tidy (cs : List Char) : Prop where
  ascii : ∀ c ∈ cs, c.toNat < 0x80
  zero : ∀ more, cs = '0' :: more → ∀ c ∈ more.head?, Text.isDigit c = false

theorem isDigit_of_ascii {c : Char} (hc : c.toNat < 0x80) (hdigit : Text.isDigit c = true) :
    isDigit c = true := by
  have hbounds := Text.digit_bounds hdigit
  simp only [isDigit, Bool.and_eq_true, decide_eq_true_eq, Char.le_def, UInt32.le_iff_toNat_le]
  change 48 ≤ c.toNat ∧ c.toNat ≤ 57
  omega

def Ends (rest : List Char) : Prop :=
  ∀ c ∈ rest.head?, c ∈ [',', ']', '}']

theorem Stops.leading {rest : Str} (h : Stops rest) : Ends rest.leading := by
  cases rest with
  | nil => simp [Ends]
  | cons p rest =>
      have hmark := h p rfl
      simp only [stopMarks, List.mem_cons, List.not_mem_nil, or_false] at hmark
      rcases hmark with rfl | rfl | rfl <;> simp [Ends]

theorem Ends.no_number {rest : List Char} (h : Ends rest) :
    leadingFraction rest = [] ∧ leadingExponent rest = [] ∧
      ∀ c ∈ rest.head?, isDigit c = false := by
  cases rest with
  | nil => exact ⟨rfl, rfl, by simp⟩
  | cons c rest =>
      have hmem := h c rfl
      simp only [List.mem_cons, List.not_mem_nil, or_false] at hmem
      rcases hmem with rfl | rfl | rfl <;> exact ⟨rfl, rfl, by rintro _ ⟨⟩; rfl⟩

theorem takeWhile_digits {ds tail : List Char} (hds : Digits ds)
    (hascii : ∀ d ∈ ds, d.toNat < 0x80) (htail : ∀ c ∈ tail.head?, isDigit c = false) :
    (ds ++ tail).takeWhile isDigit = ds := by
  rw [List.takeWhile_append_of_pos fun d hd => isDigit_of_ascii (hascii d hd) (hds.2 d hd)]
  cases tail with
  | nil => simp
  | cons c tail => simp [htail c rfl]

section

variable {whole fraction exponent rest : List Char}

theorem not_digit_of_ending (he : Exponent exponent) (hrest : Ends rest) :
    ∀ c ∈ (exponent ++ rest).head?, isDigit c = false := by
  cases he with
  | absent => exact hrest.no_number.2.2
  | digits hmark _ _ =>
      intro c hc
      cases hc
      rcases hmark with rfl | rfl <;> rfl

theorem not_digit_of_part (hf : Fraction fraction) (he : Exponent exponent) (hrest : Ends rest) :
    ∀ c ∈ (fraction ++ (exponent ++ rest)).head?, isDigit c = false := by
  cases hf with
  | absent => simpa using not_digit_of_ending he hrest
  | digits _ =>
      intro c hc
      cases hc
      rfl

theorem leadingExponent_eq (he : Exponent exponent) (hascii : ∀ c ∈ exponent, c.toNat < 0x80)
    (hrest : Ends rest) : leadingExponent (exponent ++ rest) = exponent := by
  cases he with
  | absent => exact hrest.no_number.2.1
  | @digits c sign ds hmark hs hds =>
      have hc : (c == 'e' || c == 'E') = true := by simpa using hmark
      have hdigits := takeWhile_digits hds (fun d hd => hascii d (by simp [hd])) hrest.no_number.2.2
      obtain ⟨d, more, rfl⟩ := List.exists_cons_of_ne_nil hds.1
      have hd := hds.2 d (by simp)
      have hplus : d ≠ '+' := by rintro rfl; exact absurd hd (by decide)
      have hminus : d ≠ '-' := by rintro rfl; exact absurd hd (by decide)
      rw [List.cons_append] at hdigits
      cases hs with
      | absent => simp [leadingExponent, hc, hplus, hminus, hdigits]
      | plus => simp [leadingExponent, hc, hdigits]
      | minus => simp [leadingExponent, hc, hdigits]

theorem leadingFraction_eq (hf : Fraction fraction) (he : Exponent exponent)
    (hascii : ∀ c ∈ fraction, c.toNat < 0x80) (hrest : Ends rest) :
    leadingFraction (fraction ++ (exponent ++ rest)) = fraction := by
  cases hf with
  | absent =>
      cases he with
      | absent => exact hrest.no_number.1
      | digits hmark _ _ => rcases hmark with rfl | rfl <;> rfl
  | @digits ds hds =>
      have hdigits := takeWhile_digits hds (fun d hd => hascii d (by simp [hd]))
        (not_digit_of_ending he hrest)
      obtain ⟨d, more, rfl⟩ := List.exists_cons_of_ne_nil hds.1
      rw [List.cons_append] at hdigits
      simp [leadingFraction, hdigits]

theorem leadingWhole_of_ne {d : Char} (hd : d ≠ '0') (tail : List Char) :
    leadingWhole (d :: tail) = (d :: tail).takeWhile isDigit := by
  unfold leadingWhole
  split
  · next heq =>
      cases heq
      exact absurd rfl hd
  · rfl

theorem leadingWhole_eq (hw : Digits whole) (hf : Fraction fraction) (he : Exponent exponent)
    (htidy : Tidy (whole ++ (fraction ++ exponent))) (hrest : Ends rest) :
    leadingWhole (whole ++ (fraction ++ (exponent ++ rest))) = whole := by
  have hdigits := takeWhile_digits hw (fun d hd => htidy.ascii d (by simp [hd]))
    (not_digit_of_part hf he hrest)
  obtain ⟨d, more, rfl⟩ := List.exists_cons_of_ne_nil hw.1
  by_cases hd : d = '0'
  · subst hd
    cases more with
    | nil => rfl
    | cons d' more =>
        have hlast := htidy.zero (d' :: (more ++ (fraction ++ exponent))) rfl d' rfl
        exact absurd (hw.2 d' (by simp)) (by simp [hlast])
  · rw [List.cons_append] at hdigits ⊢
    rw [leadingWhole_of_ne hd, hdigits]

end

theorem withSign_append (negative : Bool) (cs rest : List Char) :
    withSign negative cs ++ rest = withSign negative (cs ++ rest) := by
  cases negative <;> rfl

theorem leadingMinus_withSign {cs : List Char} (hcs : cs.head? ≠ some '-') (negative : Bool) :
    leadingMinus (withSign negative cs) = withSign negative [] := by
  cases negative with
  | true => rfl
  | false =>
      change leadingMinus cs = []
      unfold leadingMinus
      split
      · exact absurd rfl hcs
      · rfl

theorem drop_sign (negative : Bool) (cs : List Char) :
    (withSign negative cs).drop (withSign negative []).length = cs := by
  cases negative <;> rfl

theorem readNumber_eq {whole fraction exponent : List Char} {rest : Str} (hw : Digits whole)
    (hf : Fraction fraction) (he : Exponent exponent)
    (htidy : Tidy (whole ++ (fraction ++ exponent))) (hrest : Stops rest) (negative : Bool)
    (offset : Nat) {v : Value}
    (hv : numberValue offset (fraction.isEmpty && exponent.isEmpty)
      (withSign negative (whole ++ (fraction ++ exponent))) = .ok v) :
    ∃ next, readNumber
        ⟨offset, Str.ofChars (withSign negative (whole ++ (fraction ++ exponent))) ++ rest⟩ =
      .ok (v, ⟨next, rest⟩) := by
  have hminus : ∀ tail, (whole ++ tail).head? ≠ some '-' := by
    obtain ⟨d, more, rfl⟩ := List.exists_cons_of_ne_nil hw.1
    rintro tail ⟨⟩
    exact absurd (hw.2 '-' (by simp)) (by decide)
  have hends := hrest.leading
  have hwhole := leadingWhole_eq hw hf he htidy hends
  have hfraction := leadingFraction_eq hf he (fun c hc => htidy.ascii c (by simp [hc])) hends
  have hexponent := leadingExponent_eq he (fun c hc => htidy.ascii c (by simp [hc])) hends
  have hempty : whole.isEmpty = false := by simpa [List.isEmpty_iff] using hw.1
  have htoken : withSign negative [] ++ (whole ++ (fraction ++ exponent)) =
      withSign negative (whole ++ (fraction ++ exponent)) := withSign_append negative [] _
  have hleading : (Str.ofChars (withSign negative (whole ++ (fraction ++ exponent))) ++
      rest).leading = withSign negative (whole ++ (fraction ++ (exponent ++ rest.leading))) := by
    rw [Str.leading_append, withSign_append, List.append_assoc, List.append_assoc]
  have hrests : (Str.ofChars (withSign negative (whole ++ (fraction ++ exponent))) ++ rest).drop
      (withSign negative (whole ++ (fraction ++ exponent))).length = rest := by
    rw [← length_ofChars]
    exact List.drop_left
  refine ⟨offset + (withSign negative (whole ++ (fraction ++ exponent))).length, ?_⟩
  simp [readNumber, hleading, leadingMinus_withSign (hminus _), drop_sign, hwhole, hfraction,
    hexponent, hempty, htoken, hv, Cursor.advance, hrests, bind, Except.bind, pure, Except.pure]

structure Numeral (text : List Char) (v : Value) : Prop where
  starts : ∃ negative d more, text = withSign negative (d :: more) ∧ isDigit d = true
  reads : ∀ offset rest, Stops rest →
    ∃ next, readNumber ⟨offset, Str.ofChars text ++ rest⟩ = .ok (v, ⟨next, rest⟩)

theorem numeral_of_parts {whole fraction exponent : List Char} (hw : Digits whole)
    (hf : Fraction fraction) (he : Exponent exponent)
    (htidy : Tidy (whole ++ (fraction ++ exponent))) {negative : Bool} {v : Value}
    (hv : ∀ offset, numberValue offset (fraction.isEmpty && exponent.isEmpty)
      (withSign negative (whole ++ (fraction ++ exponent))) = .ok v) :
    Numeral (withSign negative (whole ++ (fraction ++ exponent))) v where
  starts := by
    obtain ⟨d, more, rfl⟩ := List.exists_cons_of_ne_nil hw.1
    have hd := isDigit_of_ascii (htidy.ascii d (by simp)) (hw.2 d (by simp))
    exact ⟨negative, d, more ++ (fraction ++ exponent), rfl, hd⟩
  reads offset _ hrest := readNumber_eq hw hf he htidy hrest negative offset (hv offset)

theorem decimalValue_lt {ds : List Char} (h : ∀ d ∈ ds, Text.isDigit d = true) :
    Text.decimalValue ds < 10 ^ ds.length := by
  have hlt := Decimal.spelled_lt (Decimal.digitsOf_lt ds)
  rwa [Decimal.digitsOf, Text.length_digits h] at hlt

theorem digitChars_eq_cons {n : Nat} (hn : n ≠ 0) :
    ∃ d ds, digitChars n = d :: ds ∧ d ≠ '0' := by
  obtain ⟨d, ds, hcons⟩ := List.exists_cons_of_ne_nil (Decimal.digits_digitChars n).1
  refine ⟨d, ds, hcons, ?_⟩
  rintro rfl
  have hds : ∀ c ∈ ds, Text.isDigit c = true :=
    fun c hc => (Decimal.digits_digitChars n).2 c (by simp [hcons, hc])
  have hvalue : Text.decimalValue ds = n := by
    have happend := Text.decimalValue_append ['0'] hds
    have hzero : Text.decimalValue ['0'] = 0 := Decimal.decimalValue_zeros 1
    rw [List.singleton_append, ← hcons, Decimal.decimalValue_digitChars, hzero] at happend
    omega
  have hlength : ds.length = Nat.log 10 n := by
    have hcount := Decimal.length_digitChars hn
    rw [hcons, List.length_cons] at hcount
    omega
  have hlow := Nat.pow_log_le_self 10 hn
  have hhigh := decimalValue_lt hds
  rw [hvalue, hlength] at hhigh
  omega

theorem ascii_digitChars (n : Nat) : ∀ c ∈ digitChars n, c.toNat < 0x80 := by
  intro c hc
  have hdigit := Decimal.ascii_digitChars n c hc
  simp only [Char.isDigit, Bool.and_eq_true, decide_eq_true_eq, ge_iff_le,
    UInt32.le_iff_toNat_le] at hdigit
  change c.val.toNat < 0x80
  have : ('9' : Char).val.toNat = 57 := rfl
  omega

theorem ascii_zeros (n : Nat) : ∀ c ∈ zeros n, c.toNat < 0x80 := by
  intro c hc
  obtain rfl := List.eq_of_mem_replicate hc
  decide

theorem tidy_of_ne {d : Char} {ds : List Char} (hd : d ≠ '0')
    (hascii : ∀ c ∈ d :: ds, c.toNat < 0x80) : Tidy (d :: ds) where
  ascii := hascii
  zero := by
    rintro more ⟨⟩
    exact absurd rfl hd

theorem tidy_digitChars (n : Nat) : Tidy (digitChars n) := by
  by_cases hn : n = 0
  · subst hn
    exact ⟨ascii_digitChars 0, by rintro more ⟨⟩; simp⟩
  · have hascii := ascii_digitChars n
    obtain ⟨d, ds, hcons, hd⟩ := digitChars_eq_cons hn
    rw [hcons] at hascii ⊢
    exact tidy_of_ne hd hascii

theorem tidy_point {ds : List Char} (hascii : ∀ c ∈ ds, c.toNat < 0x80) :
    Tidy ('0' :: '.' :: ds) where
  ascii := List.forall_mem_cons.2 ⟨by decide, List.forall_mem_cons.2 ⟨by decide, hascii⟩⟩
  zero := by
    rintro more ⟨⟩ c ⟨⟩
    decide

theorem tidy_plain {n : Nat} (hn : n ≠ 0) (point : Int) :
    Tidy (Decimal.plain (digitChars n) point) := by
  have hascii := ascii_digitChars n
  have hzeros := ascii_zeros
  obtain ⟨d, ds, hcons, hd⟩ := digitChars_eq_cons hn
  rw [hcons] at hascii ⊢
  obtain ⟨hfirst, hmore⟩ := List.forall_mem_cons.1 hascii
  unfold Decimal.plain
  split
  · exact tidy_point (List.forall_mem_append.2 ⟨hzeros _, hascii⟩)
  · next hpoint =>
      obtain ⟨k, hk⟩ : ∃ k, point.toNat = k + 1 := ⟨point.toNat - 1, by omega⟩
      simp only [hk]
      split
      · exact tidy_of_ne hd (by simpa [or_imp, forall_and, hfirst] using ⟨hmore, hzeros _⟩)
      · refine tidy_of_ne hd (List.forall_mem_cons.2 ⟨hfirst, List.forall_mem_append.2
          ⟨fun c hc => hmore c (List.mem_of_mem_take hc), List.forall_mem_cons.2 ⟨by decide, ?_⟩⟩⟩)
        exact fun c hc => hmore c (List.mem_of_mem_drop hc)

theorem tidy_withExponent (style : Decimal.Style) {n : Nat} (hn : n ≠ 0) (point : Int) :
    Tidy (style.withExponent (digitChars n) point) := by
  have hascii := ascii_digitChars n
  obtain ⟨d, ds, hcons, hd⟩ := digitChars_eq_cons hn
  rw [hcons] at hascii ⊢
  have hpower : ∀ c ∈ Decimal.powerText style.exponentWidth (point - 1), c.toNat < 0x80 := by
    refine List.forall_mem_cons.2 ⟨by decide, List.forall_mem_cons.2 ⟨by split <;> decide, ?_⟩⟩
    exact List.forall_mem_append.2 ⟨ascii_zeros _, ascii_digitChars _⟩
  unfold Decimal.Style.withExponent
  change Tidy (_ ++ Decimal.powerText style.exponentWidth (point - 1))
  obtain ⟨hfirst, hmore⟩ := List.forall_mem_cons.1 hascii
  cases ds with
  | nil => exact tidy_of_ne hd (List.forall_mem_cons.2 ⟨hfirst, hpower⟩)
  | cons d' ds =>
      refine tidy_of_ne hd (List.forall_mem_cons.2 ⟨hfirst, ?_⟩)
      exact List.forall_mem_cons.2 ⟨by decide, List.forall_mem_append.2 ⟨hmore, hpower⟩⟩

theorem tidy_layOut (style : Decimal.Style) {d : Decimal.Digits} (hd : d.value ≠ 0) :
    Tidy (style.layOut d) := by
  unfold Decimal.Style.layOut
  dsimp only
  split
  · exact tidy_plain hd d.point
  · exact tidy_withExponent style hd d.point

theorem exists_tidy {x : Float} (h : Decimal.isFinite x = true) : ∃ negative cs q,
    Decimal.shellStyle.chars x = withSign negative cs ∧ Decimal.Spells cs q ∧ Tidy cs := by
  unfold Decimal.isFinite at h
  unfold Decimal.Style.chars
  cases hread : Decimal.read x with
  | undefined => simp [hread] at h
  | infinite negative => simp [hread] at h
  | finite negative v =>
      by_cases hzero : v.mantissa = 0
      · refine ⟨negative, ['0', '.', '0'], 0, ?_, Decimal.spells_zero, tidy_point (by simp)⟩
        simp [hzero, withSign]
      · have hv := Decimal.canonical_of_read hread (Nat.pos_of_ne_zero hzero)
        obtain ⟨hne, -⟩ := hv.shortest_eq
        refine ⟨negative, _, _, ?_, Decimal.spells_layOut Decimal.shellStyle hne,
          tidy_layOut Decimal.shellStyle hne⟩
        simp [hzero, withSign]

theorem integerOf_integerChars {n : Int} (hn : n.natAbs < Decimal.tenTo Decimal.digitLimit) :
    Decimal.integerOf (Decimal.integerChars n) = .ok n := by
  have hdigits := Decimal.digits_digitChars n.natAbs
  have hsome : 0 < Decimal.digitLimit := by decide
  have hlength : (digitChars n.natAbs).length ≤ Decimal.digitLimit := by
    generalize Decimal.digitLimit = limit at *
    exact (Nat.length_toDigits_le_iff (by decide) hsome).2 hn
  have hplain := Statement.takeSign_digits hdigits []
  rw [List.append_nil] at hplain
  simp only [Decimal.integerOf, Decimal.integerChars_eq, Decimal.takeSign_withSign hplain, hlength,
    if_true, Decimal.decimalValue_digitChars, Decimal.signedInt, decide_eq_true_eq]
  congr 1
  split <;> omega

theorem numeral_integer {n : Int} (hn : n.natAbs < Decimal.tenTo Decimal.digitLimit) :
    Numeral (Decimal.integerChars n) (.int n) := by
  have hvalue : ∀ offset, numberValue offset true (Decimal.integerChars n) = .ok (.int n) := by
    intro offset
    simp only [numberValue, integerOf_integerChars hn, if_true]
  have htidy := tidy_digitChars n.natAbs
  rw [Decimal.integerChars_eq, ← List.append_nil (digitChars n.natAbs)] at hvalue ⊢
  rw [← List.append_nil (digitChars n.natAbs)] at htidy
  exact numeral_of_parts (Decimal.digits_digitChars _) .absent .absent htidy hvalue

theorem numeral_float {x : Float} (h : Decimal.isFinite x = true) :
    Numeral (Decimal.shellStyle.chars x) (.float x) := by
  obtain ⟨w, hw, rfl⟩ := Decimal.exists_written h
  obtain ⟨negative, cs, q, hchars, hq, htidy⟩ := exists_tidy h
  rw [hchars] at hw ⊢
  cases hq with
  | @mk whole fraction exponent power hwhole hf he hmark _ =>
      have hplain : (fraction.isEmpty && exponent.isEmpty) = false := by
        simpa [List.isEmpty_iff] using hmark
      refine numeral_of_parts hwhole hf he htidy fun offset => ?_
      rw [hplain, numberValue, hw]
      rfl

end QueryShell.Json
