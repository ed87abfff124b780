import QueryShell.Decimal.Reading
import QueryShell.Proofs.Statement.Terminal

namespace QueryShell.Statement

open Text (isDigit)

theorem takeSign_of_digit {d : Char} (hd : isDigit d = true) (cs : List Char) :
    Decimal.takeSign (d :: cs) = (false, d :: cs) := by
  unfold Decimal.takeSign
  split
  · next heq => cases heq; exact absurd hd (by decide)
  · next heq => cases heq; exact absurd hd (by decide)
  · rfl

theorem takeSign_digits {ds : List Char} (h : Digits ds) (cs : List Char) :
    Decimal.takeSign (ds ++ cs) = (false, ds ++ cs) := by
  cases ds with
  | nil => exact absurd rfl h.1
  | cons d ds => exact takeSign_of_digit (h.2 d (by simp)) (ds ++ cs)

theorem takeWhile_digits {ds tail : List Char} (hds : ∀ d ∈ ds, isDigit d = true)
    (htail : ∀ c ∈ tail.head?, isDigit c = false) : (ds ++ tail).takeWhile isDigit = ds := by
  rw [List.takeWhile_append_of_pos hds]
  cases tail with
  | nil => simp
  | cons c tail => simp [htail c rfl]

theorem Fraction.digits_tail {fraction : List Char} (h : Fraction fraction) :
    ∀ c ∈ fraction.tail, isDigit c = true := by
  cases h with
  | absent => simp
  | digits hds => exact hds.2

theorem written_eq {whole fraction exponent token : List Char} {negative : Bool} {power : Int}
    (hw : Digits whole) (hf : Fraction fraction) (he : Exponent exponent)
    (hsign : Decimal.takeSign token = (negative, whole ++ (fraction ++ exponent)))
    (hpower : Decimal.exponent? exponent = some power) :
    Decimal.Written.ofChars? token =
      some ⟨negative, Decimal.digitsOf whole, Decimal.digitsOf fraction.tail, power⟩ := by
  have hwhole := takeWhile_digits hw.2 (not_digit_of_fraction hf he)
  have hempty : whole.isEmpty = false := by
    simpa [List.isEmpty_iff] using hw.1
  have hfraction : (if (fraction ++ exponent).head? == some '.' then
      (fraction ++ exponent).tail.takeWhile isDigit else []) = fraction.tail := by
    cases hf with
    | absent =>
        cases he with
        | absent => rfl
        | digits hc => rcases hc with rfl | rfl <;> rfl
    | @digits ds hds => simp [takeWhile_digits hds.2 (not_digit_of_exponent he)]
  have hrest : (if (fraction ++ exponent).head? == some '.' then
      (fraction ++ exponent).tail.drop fraction.tail.length
      else fraction ++ exponent) = exponent := by
    cases hf with
    | absent =>
        cases he with
        | absent => rfl
        | digits hc => rcases hc with rfl | rfl <;> rfl
    | digits => simp
  simp only [Decimal.Written.ofChars?, hsign, hwhole, hempty, List.drop_left, Bool.false_and,
    hfraction, hrest, hpower]
  rfl

end QueryShell.Statement
