import QueryShell.Proofs.Decimal.Nearest
import QueryShell.Proofs.Text.Numerals
import QueryShell.Statement.Node

namespace QueryShell.Statement

open Decimal (NearestTo withSign)
open Text (DigitAs Numeral decimalNumeral_iff isDigit)

inductive ExponentAs : List Char → Int → Prop where
  | absent : ExponentAs [] 0
  | plain {c : Char} {ds : List Char} {n : Nat} : c = 'e' ∨ c = 'E' → ds ≠ [] →
      Numeral DigitAs 10 ds n → ExponentAs (c :: ds) n
  | plus {c : Char} {ds : List Char} {n : Nat} : c = 'e' ∨ c = 'E' → ds ≠ [] →
      Numeral DigitAs 10 ds n → ExponentAs (c :: '+' :: ds) n
  | minus {c : Char} {ds : List Char} {n : Nat} : c = 'e' ∨ c = 'E' → ds ≠ [] →
      Numeral DigitAs 10 ds n → ExponentAs (c :: '-' :: ds) (-n)

/-- What a number stands for: a whole number of at most 4300 digits, or the floating-point number
that is nearest to what is written. -/
inductive DenotesNumber : List Char → Value → Prop where
  | integer (negative : Bool) {ds : List Char} {n : Nat} : ds ≠ [] → ds.length ≤ 4300 →
      Numeral DigitAs 10 ds n →
      DenotesNumber (withSign negative ds) (.int (if negative then -n else n))
  | float (negative : Bool) {whole fraction exponent : List Char} {n : Nat} {power : Int}
      {x : Float} : whole ≠ [] → Fraction fraction → ExponentAs exponent power →
      fraction ++ exponent ≠ [] → Numeral DigitAs 10 (whole ++ fraction.tail) n →
      NearestTo negative (n * 10 ^ (power - fraction.tail.length)) (Decimal.read x) →
      DenotesNumber (withSign negative (whole ++ (fraction ++ exponent))) (.float x)

theorem digits_of_numeral {ds : List Char} {n : Nat} (hne : ds ≠ [])
    (h : Numeral DigitAs 10 ds n) : Digits ds :=
  ⟨hne, (decimalNumeral_iff.1 h).1⟩

theorem Digits.numeral {ds : List Char} (h : Digits ds) :
    Numeral DigitAs 10 ds (Text.decimalValue ds) :=
  decimalNumeral_iff.2 ⟨h.2, rfl⟩

theorem exponent?_digits {c : Char} (sign : List Char) {ds : List Char} {negative : Bool} {n : Nat}
    (hc : c = 'e' ∨ c = 'E') (hne : ds ≠ []) (hn : Numeral DigitAs 10 ds n)
    (hsign : Decimal.takeSign (sign ++ ds) = (negative, ds)) :
    Decimal.exponent? (c :: (sign ++ ds)) = some (Decimal.signedInt negative n) := by
  obtain ⟨hdigits, rfl⟩ := decimalNumeral_iff.1 hn
  have hmark : (c == 'e' || c == 'E') = true := by simpa using hc
  have hall : (!ds.isEmpty && ds.all isDigit) = true := by
    simpa [List.isEmpty_iff] using And.intro hne hdigits
  simp only [Decimal.exponent?, hmark, hsign, hall, if_true]

theorem ExponentAs.exponent?_eq {e : List Char} {power : Int} (h : ExponentAs e power) :
    Decimal.exponent? e = some power := by
  cases h with
  | absent => rfl
  | @plain c ds n hc hne hn =>
      have hsign := takeSign_digits (digits_of_numeral hne hn) []
      rw [List.append_nil] at hsign
      exact exponent?_digits [] hc hne hn hsign
  | plus hc hne hn => exact exponent?_digits ['+'] hc hne hn rfl
  | minus hc hne hn => exact exponent?_digits ['-'] hc hne hn rfl

theorem ExponentAs.exponent {e : List Char} {power : Int} (h : ExponentAs e power) :
    Exponent e := by
  cases h with
  | absent => exact .absent
  | plain hc hne hn => exact .digits hc .absent (digits_of_numeral hne hn)
  | plus hc hne hn => exact .digits hc .plus (digits_of_numeral hne hn)
  | minus hc hne hn => exact .digits hc .minus (digits_of_numeral hne hn)

theorem Exponent.exists_as {e : List Char} (h : Exponent e) : ∃ power, ExponentAs e power := by
  cases h with
  | absent => exact ⟨0, .absent⟩
  | digits hc hs hds =>
      cases hs with
      | absent => exact ⟨_, .plain hc hds.1 hds.numeral⟩
      | plus => exact ⟨_, .plus hc hds.1 hds.numeral⟩
      | minus => exact ⟨_, .minus hc hds.1 hds.numeral⟩

def HasPointOrExponent (token : List Char) : Prop :=
  ∃ c ∈ token, c = '.' ∨ c = 'e' ∨ c = 'E'

theorem any_pointOrExponent {token : List Char} :
    (token.any fun c => c == '.' || c == 'e' || c == 'E') = true ↔ HasPointOrExponent token := by
  simp [HasPointOrExponent, or_assoc]

section

variable (negative : Bool) {ds whole fraction exponent : List Char}

theorem hasPointOrExponent_withSign :
    HasPointOrExponent (withSign negative ds) ↔ HasPointOrExponent ds := by
  cases negative with
  | false => rfl
  | true => simp [HasPointOrExponent, withSign]

theorem Digits.no_pointOrExponent (h : Digits ds) : ¬ HasPointOrExponent ds := by
  rintro ⟨c, hc, hmark⟩
  have hdigit := h.2 c hc
  rcases hmark with rfl | rfl | rfl <;> exact absurd hdigit (by decide)

theorem hasPointOrExponent_of_parts (whole : List Char) (hf : Fraction fraction)
    (he : Exponent exponent) (hne : fraction ++ exponent ≠ []) :
    HasPointOrExponent (whole ++ (fraction ++ exponent)) := by
  cases hf with
  | digits => exact ⟨'.', by simp, .inl rfl⟩
  | absent =>
      cases he with
      | absent => exact absurd rfl hne
      | @digits c _ _ hc => exact ⟨c, by simp, .inr hc⟩

theorem numberValue_integer (h : Digits ds) :
    numberValue (withSign negative ds) =
      if ds.length ≤ 4300 then
        .ok (.int (Decimal.signedInt negative (Text.decimalValue ds)))
      else .error (.integer ds.length) := by
  have hplain := mt (hasPointOrExponent_withSign negative).1 h.no_pointOrExponent
  have hsign := takeSign_digits h []
  rw [List.append_nil] at hsign
  rw [← any_pointOrExponent] at hplain
  rw [numberValue, if_neg hplain, Decimal.integerOf, Decimal.takeSign_withSign hsign]
  by_cases hlength : ds.length ≤ 4300
  · simp only [Decimal.digitLimit, hlength, if_true]
  · simp only [Decimal.digitLimit, hlength, if_false]

theorem numberValue_float {power : Int} (hw : Digits whole) (hf : Fraction fraction)
    (he : ExponentAs exponent power) (hne : fraction ++ exponent ≠ []) :
    numberValue (withSign negative (whole ++ (fraction ++ exponent))) =
      .ok (.float (Decimal.nearest negative (Decimal.digitsOf (whole ++ fraction.tail))
        (power - fraction.tail.length))) := by
  have hmark := (hasPointOrExponent_withSign negative).2
    (hasPointOrExponent_of_parts whole hf he.exponent hne)
  have hsign := Decimal.takeSign_withSign (takeSign_digits hw (fraction ++ exponent)) negative
  have hlength : (Decimal.digitsOf fraction.tail).length = fraction.tail.length :=
    Text.length_digits hf.digits_tail
  have hdigits : Decimal.digitsOf (whole ++ fraction.tail) =
      Decimal.digitsOf whole ++ Decimal.digitsOf fraction.tail := List.filterMap_append
  rw [← any_pointOrExponent] at hmark
  rw [numberValue, if_pos hmark, written_eq hw hf he.exponent hsign he.exponent?_eq]
  simp only [Decimal.Written.toFloat, hlength, hdigits]

end

theorem DenotesNumber.numberValue_eq {token : List Char} {v : Value}
    (h : DenotesNumber token v) : numberValue token = .ok v := by
  cases h with
  | integer negative hne hlength hn =>
      rw [numberValue_integer negative (digits_of_numeral hne hn), if_pos hlength,
        (decimalNumeral_iff.1 hn).2]
      rfl
  | float negative hne hf he hmark hn hx =>
      obtain ⟨hdigits, rfl⟩ := decimalNumeral_iff.1 hn
      have hw : Digits _ := ⟨hne, fun c hc => hdigits c (List.mem_append_left _ hc)⟩
      rw [numberValue_float negative hw hf he hmark,
        (Decimal.nearestTo_iff (Decimal.digitsOf_lt _)).1 hx]

/-- A sign and what follows it. -/
inductive NumberParts : List Char → Prop where
  | integer (negative : Bool) {ds : List Char} : Digits ds → NumberParts (withSign negative ds)
  | float (negative : Bool) {whole fraction exponent : List Char} {power : Int} : Digits whole →
      Fraction fraction → ExponentAs exponent power → fraction ++ exponent ≠ [] →
      NumberParts (withSign negative (whole ++ (fraction ++ exponent)))

theorem Unsigned.parts {u : List Char} (h : Unsigned u) (negative : Bool) :
    NumberParts (withSign negative u) := by
  cases h with
  | @mk whole fraction exponent hw hf he =>
      by_cases hnone : fraction ++ exponent = []
      · rw [hnone, List.append_nil]
        exact .integer negative hw
      · obtain ⟨power, hpower⟩ := he.exists_as
        exact .float negative hw hf hpower hnone

theorem NumberText.parts {token : List Char} (h : NumberText token) : NumberParts token := by
  cases h with
  | plain hu => exact hu.parts false
  | negative hu => exact hu.parts true

theorem numberValue_eq_ok_iff {token : List Char} (h : (Token.number token).WellFormed)
    {v : Value} : numberValue token = .ok v ↔ DenotesNumber token v := by
  refine ⟨fun hv => ?_, DenotesNumber.numberValue_eq⟩
  cases NumberText.parts h with
  | integer negative hds =>
      rw [numberValue_integer negative hds] at hv
      split at hv
      · next hlength =>
          cases hv
          exact .integer negative hds.1 hlength hds.numeral
      · cases hv
  | @float negative whole fraction _ _ hw hf he hmark =>
      rw [numberValue_float negative hw hf he hmark] at hv
      cases hv
      have hdigits : ∀ c ∈ whole ++ fraction.tail, isDigit c = true :=
        List.forall_mem_append.2 ⟨hw.2, hf.digits_tail⟩
      exact .float negative hw.1 hf he hmark (decimalNumeral_iff.2 ⟨hdigits, rfl⟩)
        ((Decimal.nearestTo_iff (Decimal.digitsOf_lt _)).2 rfl)

end QueryShell.Statement
