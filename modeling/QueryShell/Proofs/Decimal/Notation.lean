import QueryShell.Decimal.Notation
import QueryShell.Proofs.Decimal.Shortest
import QueryShell.Proofs.Statement.Number

namespace QueryShell.Decimal

open Statement (Fraction Exponent)
open Text (isDigit decimalValue decimalValue_append)

theorem ascii_digitChars (n : Nat) : ∀ c ∈ digitChars n, c.isDigit = true :=
  fun _ hc => Nat.isDigit_of_mem_toDigits (by decide) (by decide) hc

theorem digits_digitChars (n : Nat) : Statement.Digits (digitChars n) :=
  ⟨Nat.toDigits_ne_nil, fun c hc => Text.isDigit_of_ascii (ascii_digitChars n c hc)⟩

theorem decimalValue_digitChars (n : Nat) : decimalValue (digitChars n) = n := by
  rw [Text.decimalValue_eq (ascii_digitChars n), digitChars, Nat.ofDigitChars_ten_toDigits]

theorem length_digitChars {n : Nat} (hn : n ≠ 0) : (digitChars n).length = Nat.log 10 n + 1 := by
  have hcount : ∀ k, 0 < k → ((digitChars n).length ≤ k ↔ Nat.log 10 n + 1 ≤ k) := by
    intro k hk
    rw [Nat.succ_le_iff, Nat.log_lt_iff_lt_pow (by decide) hn]
    exact Nat.length_toDigits_le_iff (by decide) hk
  exact Nat.le_antisymm ((hcount _ (Nat.succ_pos _)).2 le_rfl)
    ((hcount _ Nat.length_toDigits_pos).1 le_rfl)

theorem isDigit_zero : isDigit '0' = true := by
  decide

theorem isDigit_zeros (n : Nat) : ∀ c ∈ zeros n, isDigit c = true := by
  intro c hc
  obtain rfl := List.eq_of_mem_replicate hc
  exact isDigit_zero

theorem decimalValue_zeros (n : Nat) : decimalValue (zeros n) = 0 := by
  induction n with
  | zero => rfl
  | succ n ih =>
      have hzeros : zeros (n + 1) = ['0'] ++ zeros n := rfl
      rw [hzeros, decimalValue_append _ (isDigit_zeros n), ih]
      rw [show decimalValue ['0'] = 0 by decide, Nat.zero_mul]

def Written.toRat (w : Written) : ℚ :=
  Text.spelled 10 (w.whole ++ w.fraction) * 10 ^ (w.power - w.fraction.length)

inductive Spells : List Char → ℚ → Prop where
  | mk {whole fraction exponent : List Char} {power : Int} : Statement.Digits whole →
      Fraction fraction → Exponent exponent → fraction ++ exponent ≠ [] →
      exponent? exponent = some power →
      Spells (whole ++ (fraction ++ exponent))
        (decimalValue (whole ++ fraction.tail) * 10 ^ (power - fraction.tail.length))

def withSign (negative : Bool) (cs : List Char) : List Char :=
  if negative then '-' :: cs else cs

theorem takeSign_withSign {cs : List Char} (h : takeSign cs = (false, cs)) (negative : Bool) :
    takeSign (withSign negative cs) = (negative, cs) := by
  cases negative with
  | false => exact h
  | true => rfl

theorem digitsOf_lt (cs : List Char) : ∀ d ∈ digitsOf cs, d < 10 := by
  intro d hd
  obtain ⟨c, -, hc⟩ := List.mem_filterMap.1 hd
  exact Text.digitValue?_lt hc

theorem Spells.read {cs : List Char} {q : ℚ} (h : Spells cs q) (negative : Bool) :
    ∃ w, Written.ofChars? (withSign negative cs) = some w ∧ w.negative = negative ∧
      (∀ d ∈ w.whole ++ w.fraction, d < 10) ∧ w.toRat = q := by
  cases h with
  | @mk whole fraction exponent power hw hf he _ hpower =>
      have hsign := takeSign_withSign (Statement.takeSign_digits hw (fraction ++ exponent)) negative
      have hlength : (digitsOf fraction.tail).length = fraction.tail.length :=
        Text.length_digits hf.digits_tail
      refine ⟨_, Statement.written_eq hw hf he hsign hpower, rfl, ?_, ?_⟩
      · exact List.forall_mem_append.2 ⟨digitsOf_lt _, digitsOf_lt _⟩
      · rw [Written.toRat, hlength, digitsOf, digitsOf, ← List.filterMap_append]
        rfl

theorem Spells.unique {cs : List Char} {q r : ℚ} (h : Spells cs q) (h' : Spells cs r) : q = r := by
  obtain ⟨w, hw, -, -, rfl⟩ := h.read false
  obtain ⟨w', hw', -, -, rfl⟩ := h'.read false
  cases hw.symm.trans hw'
  rfl

def powerText (width : Nat) (power : Int) : List Char :=
  'e' :: (if power < 0 then '-' else '+') ::
    (zeros (width - (digitChars power.natAbs).length) ++ digitChars power.natAbs)

section

variable (width : Nat) (power : Int)

theorem digits_power : Statement.Digits
    (zeros (width - (digitChars power.natAbs).length) ++ digitChars power.natAbs) :=
  ⟨by simp [(digits_digitChars power.natAbs).1],
    List.forall_mem_append.2 ⟨isDigit_zeros _, (digits_digitChars power.natAbs).2⟩⟩

theorem exponent_powerText : Exponent (powerText width power) := by
  have hdigits := digits_power width power
  unfold powerText
  split
  · exact .digits (.inl rfl) .minus hdigits
  · exact .digits (.inl rfl) .plus hdigits

theorem exponent?_powerText : exponent? (powerText width power) = some power := by
  have hdigits := digits_power width power
  have hvalue : decimalValue (zeros (width - (digitChars power.natAbs).length) ++
      digitChars power.natAbs) = power.natAbs := by
    rw [decimalValue_append _ (digits_digitChars _).2, decimalValue_zeros,
      decimalValue_digitChars, Nat.zero_mul, Nat.zero_add]
  unfold powerText
  generalize zeros (width - (digitChars power.natAbs).length) ++ digitChars power.natAbs = ds at *
  have hall : (!ds.isEmpty && ds.all isDigit) = true := by
    simpa [Statement.Digits, List.isEmpty_iff] using hdigits
  split
  · next hneg =>
      simp [exponent?, takeSign, hall, hvalue, signedInt, abs_of_neg hneg]
  · next hpos =>
      simp [exponent?, takeSign, hall, hvalue, signedInt]
      omega

end

section

variable {n : Nat} (hn : n ≠ 0) (point : Int)

include hn

theorem spells_mk {whole fraction exponent : List Char} {power : Int} {k : Nat}
    (hw : Statement.Digits whole) (hf : Fraction fraction) (he : Exponent exponent)
    (hmark : fraction ++ exponent ≠ []) (hpower : exponent? exponent = some power)
    (hvalue : decimalValue (whole ++ fraction.tail) = n * 10 ^ k)
    (hplace : k + (power - fraction.tail.length) = point - (digitChars n).length) :
    Spells (whole ++ (fraction ++ exponent)) (⟨n, point⟩ : Digits).toRat := by
  have hrat : (⟨n, point⟩ : Digits).toRat =
      decimalValue (whole ++ fraction.tail) * 10 ^ (power - fraction.tail.length) := by
    rw [Digits.toRat, hvalue]
    push_cast
    rw [mul_assoc, ← zpow_natCast, ← zpow_add₀ (by norm_num), hplace, length_digitChars hn]
    congr 2
    push_cast
    ring
  rw [hrat]
  exact .mk hw hf he hmark hpower

theorem spells_small (hpoint : point ≤ 0) :
    Spells ('0' :: '.' :: (zeros (-point).toNat ++ digitChars n)) (⟨n, point⟩ : Digits).toRat := by
  have hdigits := digits_digitChars n
  have hall := List.forall_mem_append.2 ⟨isDigit_zeros (-point).toNat, hdigits.2⟩
  have hvalue : decimalValue (['0'] ++ (zeros (-point).toNat ++ digitChars n)) = n * 10 ^ 0 := by
    rw [← List.append_assoc, decimalValue_append _ hdigits.2, decimalValue_digitChars]
    have hzeros : decimalValue (['0'] ++ zeros (-point).toNat) = 0 :=
      decimalValue_zeros ((-point).toNat + 1)
    rw [hzeros]
    ring
  have hplace : ((0 : Nat) : Int) + (0 - (zeros (-point).toNat ++ digitChars n).length) =
      point - (digitChars n).length := by
    simp [zeros]
    omega
  have h := spells_mk hn point ⟨by simp, by simp [isDigit_zero]⟩
    (.digits ⟨by simp [hdigits.1], hall⟩) .absent (by simp) rfl hvalue hplace
  simpa using h

theorem spells_large (hpoint : (digitChars n).length ≤ point) :
    Spells (digitChars n ++ zeros (point.toNat - (digitChars n).length) ++ ['.', '0'])
      (⟨n, point⟩ : Digits).toRat := by
  have hdigits := digits_digitChars n
  generalize hwide : point.toNat - (digitChars n).length = more
  have hall := List.forall_mem_append.2 ⟨hdigits.2, isDigit_zeros more⟩
  have hvalue : decimalValue ((digitChars n ++ zeros more) ++ ['0']) = n * 10 ^ (more + 1) := by
    have hzeros : zeros more ++ ['0'] = zeros (more + 1) := List.replicate_succ'.symm
    rw [List.append_assoc, hzeros, decimalValue_append _ (isDigit_zeros _),
      decimalValue_digitChars, decimalValue_zeros, zeros, List.length_replicate, Nat.add_zero]
  have hplace : ((more + 1 : Nat) : Int) + (0 - ['0'].length) = point - (digitChars n).length := by
    simp
    omega
  have h := spells_mk hn point ⟨by simp [hdigits.1], hall⟩
    (.digits ⟨by simp, by simp [isDigit_zero]⟩) .absent (by simp) rfl hvalue hplace
  simpa using h

theorem spells_between (hpoint : 0 < point) (hlength : point < (digitChars n).length) :
    Spells ((digitChars n).take point.toNat ++ '.' :: (digitChars n).drop point.toNat)
      (⟨n, point⟩ : Digits).toRat := by
  have hdigits := digits_digitChars n
  have hwhole : Statement.Digits ((digitChars n).take point.toNat) :=
    ⟨by simp [hdigits.1]; omega, fun c hc => hdigits.2 c (List.mem_of_mem_take hc)⟩
  have hfraction : Statement.Digits ((digitChars n).drop point.toNat) :=
    ⟨by simp; omega, fun c hc => hdigits.2 c (List.mem_of_mem_drop hc)⟩
  have hvalue : decimalValue
      ((digitChars n).take point.toNat ++ (digitChars n).drop point.toNat) = n * 10 ^ 0 := by
    rw [List.take_append_drop, decimalValue_digitChars, Nat.pow_zero, Nat.mul_one]
  have hplace : ((0 : Nat) : Int) + (0 - ((digitChars n).drop point.toNat).length) =
      point - (digitChars n).length := by
    simp
    omega
  have h := spells_mk hn point hwhole (.digits hfraction) .absent (by simp) rfl hvalue hplace
  simpa using h

theorem spells_plain : Spells (plain (digitChars n) point) (⟨n, point⟩ : Digits).toRat := by
  unfold plain
  split
  · next hpoint => exact spells_small hn point hpoint
  · next hpoint =>
      simp only
      split
      · next hlarge => exact spells_large hn point (by omega)
      · next hbetween => exact spells_between hn point (by omega) (by omega)

theorem spells_withExponent (style : Style) :
    Spells (style.withExponent (digitChars n) point) (⟨n, point⟩ : Digits).toRat := by
  have hdigits := digits_digitChars n
  have hvalue := decimalValue_digitChars n
  have hexponent := exponent_powerText style.exponentWidth (point - 1)
  have hpower := exponent?_powerText style.exponentWidth (point - 1)
  unfold Style.withExponent
  change Spells (_ ++ powerText style.exponentWidth (point - 1)) _
  generalize hds : digitChars n = digits at *
  match digits with
  | [] => exact absurd rfl hdigits.1
  | [d] =>
      have h := spells_mk hn point (k := 0) hdigits .absent hexponent (by simp [powerText]) hpower
        (by simpa using hvalue) (by simp [hds])
      simpa using h
  | d :: d' :: ds =>
      have hwhole : Statement.Digits [d] := ⟨by simp, by simpa using hdigits.2 d (by simp)⟩
      have hfraction : Statement.Digits (d' :: ds) :=
        ⟨by simp, fun c hc => hdigits.2 c (List.mem_cons_of_mem _ hc)⟩
      have h := spells_mk hn point (k := 0) hwhole (.digits hfraction) hexponent (by simp) hpower
        (by simpa using hvalue) (by simp [hds]; omega)
      simpa using h

end

theorem spells_layOut (style : Style) {d : Digits} (hd : d.value ≠ 0) :
    Spells (style.layOut d) d.toRat := by
  unfold Style.layOut
  simp only
  split
  · exact spells_plain hd d.point
  · exact spells_withExponent hd d.point style

theorem spells_zero : Spells ['0', '.', '0'] 0 := by
  have hzero : Statement.Digits ['0'] := ⟨by simp, by simp [isDigit_zero]⟩
  have h := Spells.mk hzero (.digits hzero) .absent (by simp) rfl
  have hvalue : decimalValue ['0', '0'] = 0 := decimalValue_zeros 2
  simpa [hvalue] using h

theorem Spells.exists_digit {cs : List Char} {q : ℚ} (h : Spells cs q) :
    ∃ d ds, cs = d :: ds ∧ isDigit d = true := by
  cases h with
  | @mk whole _ _ _ hw _ _ _ _ =>
      match whole, hw with
      | [], hw => exact absurd rfl hw.1
      | d :: ds, hw => exact ⟨d, _, rfl, hw.2 d (by simp)⟩

def Binary.Reads (v : Binary) (q : ℚ) : Prop :=
  (v = ⟨0, -1074, false⟩ ∧ q = 0) ∨ (v.Canonical ∧ v.Nears q ∧ 0 < q)

inductive Shows : Reading → List Char → Prop where
  | undefined : Shows .undefined ['n', 'a', 'n']
  | infinite (negative : Bool) : Shows (.infinite negative) (withSign negative ['i', 'n', 'f'])
  | finite (negative : Bool) {v : Binary} {cs : List Char} {q : ℚ} : v.Reads q → Spells cs q →
      Shows (.finite negative v) (withSign negative cs)

theorem shows_chars (x : Float) : Shows (read x) (shellStyle.chars x) := by
  unfold Style.chars
  cases h : read x with
  | undefined => exact .undefined
  | infinite negative => exact .infinite negative
  | finite negative v =>
      by_cases hzero : v.mantissa = 0
      · have hv := zero_of_read h hzero
        subst hv
        exact .finite negative (.inl ⟨rfl, rfl⟩) spells_zero
      · have hv := canonical_of_read h (Nat.pos_of_ne_zero hzero)
        obtain ⟨hne, hnears⟩ := hv.shortest_eq
        simp only [beq_iff_eq, hzero, if_false]
        refine .finite negative (.inr ⟨hv, hnears, ?_⟩) (spells_layOut shellStyle hne)
        have hpos : (0 : ℚ) < v.shortest.value := by exact_mod_cast Nat.pos_of_ne_zero hne
        exact mul_pos hpos (by positivity)

theorem Binary.Reads.unique {v w : Binary} {q : ℚ} (hv : v.Reads q) (hw : w.Reads q) : v = w := by
  rcases hv with ⟨rfl, rfl⟩ | ⟨hv, hvq, hpos⟩
  · rcases hw with ⟨rfl, -⟩ | ⟨-, -, hpos⟩
    · rfl
    · exact absurd hpos (lt_irrefl 0)
  · rcases hw with ⟨rfl, rfl⟩ | ⟨hw, hwq, -⟩
    · exact absurd hpos (lt_irrefl 0)
    · exact hvq.unique hv hw hwq

theorem withSign_inj {b c : Bool} {cs ds : List Char} (hcs : cs.head? ≠ some '-')
    (hds : ds.head? ≠ some '-') (h : withSign b cs = withSign c ds) : b = c ∧ cs = ds := by
  cases b with
  | false =>
      cases c with
      | false => exact ⟨rfl, h⟩
      | true =>
          obtain rfl : cs = '-' :: ds := h
          exact absurd rfl hcs
  | true =>
      cases c with
      | false =>
          obtain rfl : '-' :: cs = ds := h
          exact absurd rfl hds
      | true => exact ⟨rfl, (List.cons.inj h).2⟩

theorem Spells.head_ne {cs : List Char} {q : ℚ} (h : Spells cs q) {c : Char}
    (hc : isDigit c = false) : cs.head? ≠ some c := by
  obtain ⟨d, ds, rfl, hd⟩ := h.exists_digit
  intro heq
  cases heq
  exact absurd hd (by simp [hc])

theorem Shows.inj {r s : Reading} {cs ds : List Char} (hr : Shows r cs) (hs : Shows s ds)
    (h : cs = ds) : r = s := by
  have hminus : isDigit '-' = false := by decide
  have hi : isDigit 'i' = false := by decide
  have hn : isDigit 'n' = false := by decide
  cases hr with
  | undefined =>
      cases hs with
      | undefined => rfl
      | infinite c => cases c <;> simp [withSign] at h
      | finite c _ hq =>
          obtain ⟨-, rfl⟩ := withSign_inj (b := false) (by simp) (hq.head_ne hminus) h
          exact absurd rfl (hq.head_ne hn)
  | infinite b =>
      cases hs with
      | undefined => cases b <;> simp [withSign] at h
      | infinite c => rw [(withSign_inj (by simp) (by simp) h).1]
      | finite c _ hq =>
          obtain ⟨-, rfl⟩ := withSign_inj (by simp) (hq.head_ne hminus) h
          exact absurd rfl (hq.head_ne hi)
  | finite b hv hp =>
      cases hs with
      | undefined =>
          obtain ⟨-, rfl⟩ := withSign_inj (c := false) (hp.head_ne hminus) (by simp) h
          exact absurd rfl (hp.head_ne hn)
      | infinite c =>
          obtain ⟨-, rfl⟩ := withSign_inj (hp.head_ne hminus) (by simp) h
          exact absurd rfl (hp.head_ne hi)
      | finite c hw hq =>
          obtain ⟨rfl, rfl⟩ := withSign_inj (hp.head_ne hminus) (hq.head_ne hminus) h
          obtain rfl := hp.unique hq
          rw [hv.unique hw]

theorem chars_inj {x y : Float} (h : shellStyle.chars x = shellStyle.chars y) : x = y :=
  read_inj ((shows_chars x).inj (shows_chars y) h)

theorem digits_head_ne {cs : List Char} (h : Statement.Digits cs) {c : Char}
    (hc : isDigit c = false) : cs.head? ≠ some c := by
  intro heq
  have hd := h.2 c (List.mem_of_mem_head? heq)
  exact absurd hd (by simp [hc])

theorem integerChars_eq (n : Int) :
    integerChars n = withSign (decide (n < 0)) (digitChars n.natAbs) := by
  cases n with
  | ofNat n =>
      have hpos : ¬ (Int.ofNat n < 0) := by simp
      rw [decide_eq_false hpos]
      rfl
  | negSucc n =>
      rw [decide_eq_true (Int.negSucc_lt_zero n)]
      rfl

theorem integerChars_inj {m n : Int} (h : integerChars m = integerChars n) : m = n := by
  have hminus : isDigit '-' = false := by decide
  rw [integerChars_eq, integerChars_eq] at h
  obtain ⟨hsign, hdigits⟩ := withSign_inj (digits_head_ne (digits_digitChars _) hminus)
    (digits_head_ne (digits_digitChars _) hminus) h
  have habs : m.natAbs = n.natAbs := by
    rw [← decimalValue_digitChars m.natAbs, hdigits, decimalValue_digitChars]
  rw [decide_eq_decide] at hsign
  omega

def numberMarks : List Char :=
  ['-', '+', '.', 'e', 'E', 'i', 'n', 'f', 'a']

def isNumberChar (c : Char) : Bool :=
  isDigit c || numberMarks.contains c

theorem isNumberChar_of_mark {c : Char} (h : c ∈ numberMarks) : isNumberChar c = true := by
  simp [isNumberChar, h]

theorem isNumberChar_of_digit {c : Char} (h : isDigit c = true) : isNumberChar c = true := by
  simp [isNumberChar, h]

theorem isNumberChar_withSign {cs : List Char} (h : ∀ c ∈ cs, isNumberChar c = true)
    (negative : Bool) : ∀ c ∈ withSign negative cs, isNumberChar c = true := by
  intro c hc
  cases negative with
  | false => exact h c hc
  | true =>
      rcases List.mem_cons.1 hc with rfl | hc
      · rfl
      · exact h c hc

theorem isNumberChar_integerChars (n : Int) : ∀ c ∈ integerChars n, isNumberChar c = true := by
  rw [integerChars_eq]
  exact isNumberChar_withSign
    (fun c hc => isNumberChar_of_digit ((digits_digitChars n.natAbs).2 c hc)) _

theorem Spells.isNumberChar {cs : List Char} {q : ℚ} (h : Spells cs q) :
    ∀ c ∈ cs, isNumberChar c = true := by
  cases h with
  | mk hw hf he _ _ =>
      intro c hc
      rcases List.mem_append.1 hc with hc | hc
      · exact isNumberChar_of_digit (hw.2 c hc)
      rcases List.mem_append.1 hc with hc | hc
      · cases hf with
        | absent => cases hc
        | digits hds =>
            rcases List.mem_cons.1 hc with rfl | hc
            · rfl
            · exact isNumberChar_of_digit (hds.2 c hc)
      · cases he with
        | absent => cases hc
        | digits hmark hsign hds =>
            rcases List.mem_cons.1 hc with rfl | hc
            · rcases hmark with rfl | rfl <;> rfl
            rcases List.mem_append.1 hc with hc | hc
            · cases hsign with
              | absent => cases hc
              | plus => obtain rfl := List.mem_singleton.1 hc; rfl
              | minus => obtain rfl := List.mem_singleton.1 hc; rfl
            · exact isNumberChar_of_digit (hds.2 c hc)

theorem Shows.isNumberChar {r : Reading} {cs : List Char} (h : Shows r cs) :
    ∀ c ∈ cs, isNumberChar c = true := by
  cases h with
  | undefined =>
      have hword : ['n', 'a', 'n'] ⊆ numberMarks := by simp [numberMarks]
      exact fun c hc => isNumberChar_of_mark (hword hc)
  | infinite negative =>
      have hword : ['i', 'n', 'f'] ⊆ numberMarks := by simp [numberMarks]
      exact isNumberChar_withSign (fun c hc => isNumberChar_of_mark (hword hc)) negative
  | finite negative _ hq => exact isNumberChar_withSign hq.isNumberChar negative

def StartsNumber (c : Char) : Prop :=
  isDigit c = true ∨ c ∈ ['-', 'i', 'n']

theorem exists_start_withSign {cs : List Char} (h : ∃ c more, cs = c :: more ∧ StartsNumber c)
    (negative : Bool) : ∃ c more, withSign negative cs = c :: more ∧ StartsNumber c := by
  cases negative with
  | false => exact h
  | true => exact ⟨'-', cs, rfl, .inr (by simp)⟩

theorem exists_start_integerChars (n : Int) :
    ∃ c more, integerChars n = c :: more ∧ StartsNumber c := by
  rw [integerChars_eq]
  refine exists_start_withSign ?_ _
  have hdigits := digits_digitChars n.natAbs
  generalize digitChars n.natAbs = cs at hdigits
  match cs, hdigits with
  | [], h => exact absurd rfl h.1
  | c :: more, h => exact ⟨c, more, rfl, .inl (h.2 c (by simp))⟩

theorem Shows.exists_start {r : Reading} {cs : List Char} (h : Shows r cs) :
    ∃ c more, cs = c :: more ∧ StartsNumber c := by
  cases h with
  | undefined => exact ⟨'n', _, rfl, .inr (by simp)⟩
  | infinite negative => exact exists_start_withSign ⟨'i', _, rfl, .inr (by simp)⟩ negative
  | finite negative _ hq =>
      obtain ⟨d, ds, rfl, hd⟩ := hq.exists_digit
      exact exists_start_withSign ⟨d, ds, rfl, .inl hd⟩ negative

theorem Spells.exists_mark {cs : List Char} {q : ℚ} (h : Spells cs q) :
    ∃ c ∈ cs, c ≠ '-' ∧ isDigit c = false := by
  cases h with
  | @mk whole fraction exponent power hw hf he hmark _ =>
      cases hf with
      | digits hds => exact ⟨'.', by simp, by decide, by decide⟩
      | absent =>
          cases he with
          | absent => exact absurd rfl hmark
          | @digits c sign ds hc _ _ =>
              refine ⟨c, by simp, ?_⟩
              rcases hc with rfl | rfl <;> decide

theorem Shows.exists_mark {r : Reading} {cs : List Char} (h : Shows r cs) :
    ∃ c ∈ cs, c ≠ '-' ∧ isDigit c = false := by
  cases h with
  | undefined => exact ⟨'n', by decide⟩
  | infinite negative => exact ⟨'n', by cases negative <;> decide, by decide⟩
  | finite negative _ hq =>
      obtain ⟨c, hc, hmark⟩ := hq.exists_mark
      refine ⟨c, ?_, hmark⟩
      cases negative
      · exact hc
      · exact List.mem_cons_of_mem _ hc

theorem integerChars_ne_chars (n : Int) (x : Float) : integerChars n ≠ shellStyle.chars x := by
  intro h
  obtain ⟨c, hc, hminus, hdigit⟩ := (shows_chars x).exists_mark
  rw [← h, integerChars_eq] at hc
  have hd : c ∈ digitChars n.natAbs := by
    unfold withSign at hc
    split at hc
    · exact (List.mem_cons.1 hc).resolve_left hminus
    · exact hc
  exact absurd ((digits_digitChars _).2 c hd) (by simp [hdigit])

end QueryShell.Decimal
