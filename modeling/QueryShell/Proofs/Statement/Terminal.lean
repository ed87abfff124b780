import Mathlib.Data.List.TakeWhile
import QueryShell.Proofs.Text.Characters
import QueryShell.Statement.Lexer

namespace QueryShell.Statement

open Text (isDigit)

def Digits (cs : List Char) : Prop :=
  cs ≠ [] ∧ ∀ c ∈ cs, isDigit c = true

inductive Fraction : List Char → Prop where
  | absent : Fraction []
  | digits {ds : List Char} : Digits ds → Fraction ('.' :: ds)

inductive Sign : List Char → Prop where
  | absent : Sign []
  | plus : Sign ['+']
  | minus : Sign ['-']

inductive Exponent : List Char → Prop where
  | absent : Exponent []
  | digits {c : Char} {sign ds : List Char} :
      c = 'e' ∨ c = 'E' → Sign sign → Digits ds → Exponent (c :: (sign ++ ds))

inductive Unsigned : List Char → Prop where
  | mk {whole fraction exponent : List Char} : Digits whole → Fraction fraction →
      Exponent exponent → Unsigned (whole ++ (fraction ++ exponent))

inductive NumberText : List Char → Prop where
  | plain {cs : List Char} : Unsigned cs → NumberText cs
  | negative {cs : List Char} : Unsigned cs → NumberText ('-' :: cs)

inductive StringRest (quote : Char) : List Char → Prop where
  | close : StringRest quote [quote]
  | plain {c : Char} {cs : List Char} :
      c ≠ quote → c ≠ '\\' → StringRest quote cs → StringRest quote (c :: cs)
  | escape {c : Char} {cs : List Char} :
      StringRest quote cs → StringRest quote ('\\' :: c :: cs)

def Token.WellFormed : Token → Prop
  | .name text => ∃ c cs, text = c :: cs ∧ isNameStart c = true ∧ ∀ d ∈ cs, isNamePart d = true
  | .number text => NumberText text
  | .string text => ∃ quote cs, text = quote :: cs ∧ isQuote quote = true ∧ StringRest quote cs
  | .mark _ => True

structure Lexeme (text : List Char) (t : Token) (rest : List Char) : Prop where
  wellFormed : t.WellFormed
  split : text = t.text ++ rest
  longest : ∀ u : Token, u.WellFormed → u.text <+: text → u.text.length ≤ t.text.length

theorem nameStart_bounds {c : Char} (h : isNameStart c = true) :
    (65 ≤ c.toNat ∧ c.toNat ≤ 90) ∨ (97 ≤ c.toNat ∧ c.toNat ≤ 122) ∨ c = '_' ∨ c = '$' := by
  have halpha : c.isAlpha = (decide (c.val ≥ 65 ∧ c.val ≤ 90) ||
      (decide (c.val ≥ 97) && decide (c.val ≤ 122))) := rfl
  simp only [isNameStart, halpha, Bool.or_eq_true, Bool.and_eq_true, decide_eq_true_eq,
    beq_iff_eq] at h
  rcases h with ((h | h) | rfl) | rfl
  · exact .inl ⟨UInt32.le_iff_toNat_le.1 h.1, UInt32.le_iff_toNat_le.1 h.2⟩
  · exact .inr (.inl ⟨UInt32.le_iff_toNat_le.1 h.1, UInt32.le_iff_toNat_le.1 h.2⟩)
  · exact .inr (.inr (.inl rfl))
  · exact .inr (.inr (.inr rfl))

theorem not_nameStart_of_digit {c : Char} (h : isDigit c = true) : isNameStart c = false := by
  rw [Bool.eq_false_iff]
  intro hn
  have hd := Text.digit_bounds h
  rcases nameStart_bounds hn with hn | hn | rfl | rfl
  · omega
  · omega
  · exact absurd h (by decide)
  · exact absurd h (by decide)

theorem length_le_takeWhile {p : Char → Bool} {l cs : List Char} (h : l <+: cs)
    (hl : ∀ c ∈ l, p c = true) : l.length ≤ (cs.takeWhile p).length := by
  obtain ⟨rest, rfl⟩ := h
  rw [List.takeWhile_append_of_pos hl, List.length_append]
  omega

theorem digits_isPrefix {ds tail cs : List Char} (h : ds ++ tail <+: cs)
    (hds : ∀ d ∈ ds, isDigit d = true) (htail : ∀ c ∈ tail.head?, isDigit c = false) :
    (tail = [] ∧ ds.length ≤ (leadingDigits cs).length) ∨
      (leadingDigits cs = ds ∧ tail <+: cs.drop ds.length) := by
  induction ds generalizing cs with
  | nil =>
      cases tail with
      | nil => exact .inl ⟨rfl, Nat.zero_le _⟩
      | cons c tail =>
          obtain ⟨rest, rfl⟩ := h
          have hc : isDigit c = false := htail c rfl
          exact .inr ⟨by simp [leadingDigits, hc], ⟨rest, rfl⟩⟩
  | cons d ds ih =>
      obtain ⟨rest, rfl⟩ := h
      have hd : isDigit d = true := hds d (by simp)
      have hcs : leadingDigits (d :: ds ++ tail ++ rest) =
          d :: leadingDigits (ds ++ tail ++ rest) := by
        simp [leadingDigits, hd]
      rw [hcs]
      rcases ih ⟨rest, rfl⟩ (fun c hc => hds c (by simp [hc])) with ⟨rfl, hlen⟩ | ⟨heq, -⟩
      · exact .inl ⟨rfl, Nat.succ_le_succ hlen⟩
      · exact .inr ⟨by rw [heq], by simp⟩

theorem leadingDigits_isPrefix (cs : List Char) : leadingDigits cs <+: cs :=
  List.takeWhile_prefix _

theorem digits_leadingDigits {cs : List Char} (h : leadingDigits cs ≠ []) :
    Digits (leadingDigits cs) :=
  ⟨h, fun _ hc => List.mem_takeWhile_imp hc⟩

theorem prefix_append_drop {a cs b : List Char} (ha : a <+: cs) (hb : b <+: cs.drop a.length) :
    a ++ b <+: cs := by
  obtain ⟨rest, rfl⟩ := ha
  rw [List.drop_left] at hb
  exact (List.prefix_append_right_inj a).2 hb

theorem leadingFraction_isPrefix (cs : List Char) : leadingFraction cs <+: cs := by
  unfold leadingFraction
  split
  · next ds =>
      split
      · exact List.nil_prefix
      · exact (List.cons_prefix_cons).2 ⟨rfl, leadingDigits_isPrefix ds⟩
  · exact List.nil_prefix

theorem fraction_leadingFraction (cs : List Char) : Fraction (leadingFraction cs) := by
  unfold leadingFraction
  split
  · split
    · exact .absent
    · next h => exact .digits (digits_leadingDigits h)
  · exact .absent

theorem leadingSign_isPrefix (cs : List Char) : leadingSign cs <+: cs := by
  unfold leadingSign
  split
  · exact ⟨_, rfl⟩
  · exact ⟨_, rfl⟩
  · exact List.nil_prefix

theorem sign_leadingSign (cs : List Char) : Sign (leadingSign cs) := by
  unfold leadingSign
  split
  · exact .plus
  · exact .minus
  · exact .absent

theorem leadingExponent_isPrefix (cs : List Char) : leadingExponent cs <+: cs := by
  cases cs with
  | nil => exact List.nil_prefix
  | cons c cs =>
      simp only [leadingExponent]
      split
      · split
        · exact List.nil_prefix
        · refine List.cons_prefix_cons.2 ⟨rfl, ?_⟩
          exact prefix_append_drop (leadingSign_isPrefix cs) (leadingDigits_isPrefix _)
      · exact List.nil_prefix

theorem exponent_leadingExponent (cs : List Char) : Exponent (leadingExponent cs) := by
  cases cs with
  | nil => exact .absent
  | cons c cs =>
      simp only [leadingExponent]
      split
      · next hc =>
          split
          · exact .absent
          · next h =>
              refine .digits ?_ (sign_leadingSign cs) (digits_leadingDigits h)
              simpa using hc
      · exact .absent

theorem leadingNumber_isPrefix (cs : List Char) : leadingNumber cs <+: cs := by
  unfold leadingNumber
  split
  · exact List.nil_prefix
  · simp only [List.append_assoc]
    refine prefix_append_drop (leadingDigits_isPrefix cs) ?_
    exact prefix_append_drop (leadingFraction_isPrefix _) (leadingExponent_isPrefix _)

theorem unsigned_leadingNumber {cs : List Char} (h : leadingNumber cs ≠ []) :
    Unsigned (leadingNumber cs) := by
  unfold leadingNumber at h ⊢
  split at h
  · exact absurd rfl h
  · next hne =>
      simp only [List.append_assoc]
      exact .mk (digits_leadingDigits hne) (fraction_leadingFraction _)
        (exponent_leadingExponent _)

theorem not_digit_of_exponent {e : List Char} (he : Exponent e) :
    ∀ c ∈ e.head?, isDigit c = false := by
  intro c hc
  cases he with
  | absent => cases hc
  | digits hmark =>
      obtain rfl : _ = c := by simpa using hc
      rcases hmark with rfl | rfl <;> decide

theorem not_digit_of_fraction {f e : List Char} (hf : Fraction f) (he : Exponent e) :
    ∀ c ∈ (f ++ e).head?, isDigit c = false := by
  cases hf with
  | absent => exact not_digit_of_exponent he
  | digits _ =>
      intro c hc
      obtain rfl : '.' = c := by simpa using hc
      decide

theorem leadingSign_of_digits {ds cs : List Char} (h : ds <+: cs) (hds : Digits ds) :
    leadingSign cs = [] := by
  obtain ⟨rest, rfl⟩ := h
  cases ds with
  | nil => exact absurd rfl hds.1
  | cons d ds =>
      have hd : isDigit d = true := hds.2 d (by simp)
      simp only [List.cons_append]
      unfold leadingSign
      split
      · next heq => cases heq; exact absurd hd (by decide)
      · next heq => cases heq; exact absurd hd (by decide)
      · rfl

theorem leadingSign_of_isPrefix {sign ds cs : List Char} (h : sign ++ ds <+: cs) (hs : Sign sign)
    (hds : Digits ds) : leadingSign cs = sign := by
  cases hs with
  | absent => exact leadingSign_of_digits h hds
  | plus => obtain ⟨rest, rfl⟩ := h; rfl
  | minus => obtain ⟨rest, rfl⟩ := h; rfl

theorem exponent_length_le {e cs : List Char} (he : Exponent e) (h : e <+: cs) :
    e.length ≤ (leadingExponent cs).length := by
  cases he with
  | absent => exact Nat.zero_le _
  | @digits c sign ds hc hs hds =>
      obtain ⟨rest, rfl⟩ := h
      have hpre : sign ++ ds <+: sign ++ ds ++ rest := ⟨rest, rfl⟩
      have hmark : (c == 'e' || c == 'E') = true := by simpa using hc
      have hlen : ds.length ≤ (leadingDigits (ds ++ rest)).length :=
        length_le_takeWhile ⟨rest, rfl⟩ hds.2
      have hpos : 0 < ds.length := List.length_pos_iff.2 hds.1
      have hdrop : (sign ++ ds ++ rest).drop sign.length = ds ++ rest := by
        rw [List.append_assoc, List.drop_left]
      simp only [List.cons_append, leadingExponent, if_pos hmark,
        leadingSign_of_isPrefix hpre hs hds, hdrop]
      split
      · next hnil => rw [hnil, List.length_nil] at hlen; omega
      · simpa using hlen

theorem fraction_cases {f e cs : List Char} (hf : Fraction f) (he : Exponent e)
    (h : f ++ e <+: cs) :
    (e = [] ∧ f.length ≤ (leadingFraction cs).length) ∨
      (leadingFraction cs = f ∧ e <+: cs.drop f.length) := by
  cases hf with
  | absent =>
      cases he with
      | absent => exact .inl ⟨rfl, Nat.zero_le _⟩
      | @digits c sign ds hc =>
          obtain ⟨rest, rfl⟩ := h
          refine .inr ⟨?_, ⟨rest, rfl⟩⟩
          rcases hc with rfl | rfl <;> rfl
  | @digits ds hds =>
      obtain ⟨rest, rfl⟩ := h
      have hne : leadingDigits (ds ++ e ++ rest) ≠ [] := by
        have hlen := length_le_takeWhile (p := isDigit) (l := ds)
          ⟨e ++ rest, (List.append_assoc ds e rest).symm⟩ hds.2
        have hpos : 0 < ds.length := List.length_pos_iff.2 hds.1
        exact List.length_pos_iff.1 (Nat.lt_of_lt_of_le hpos hlen)
      have heq : leadingFraction ('.' :: ds ++ e ++ rest) =
          '.' :: leadingDigits (ds ++ e ++ rest) := by
        simp only [List.cons_append, leadingFraction]
      rw [heq]
      rcases digits_isPrefix ⟨rest, rfl⟩ hds.2 (not_digit_of_exponent he) with
        ⟨rfl, hlen⟩ | ⟨hw, hr⟩
      · exact .inl ⟨rfl, Nat.succ_le_succ hlen⟩
      · exact .inr ⟨by rw [hw], hr⟩

theorem leadingNumber_of_no_digits {cs : List Char} (h : leadingDigits cs = []) :
    leadingNumber cs = [] := by
  simp only [leadingNumber, h]

theorem leadingNumber_eq {cs : List Char} (h : leadingDigits cs ≠ []) :
    leadingNumber cs = leadingDigits cs ++
      (leadingFraction (cs.drop (leadingDigits cs).length) ++
        leadingExponent ((cs.drop (leadingDigits cs).length).drop
          (leadingFraction (cs.drop (leadingDigits cs).length)).length)) := by
  unfold leadingNumber
  split
  · next hnil => exact absurd hnil h
  · simp only [List.append_assoc]

theorem unsigned_length_le {u cs : List Char} (hu : Unsigned u) (h : u <+: cs) :
    u.length ≤ (leadingNumber cs).length := by
  cases hu with
  | @mk whole fraction exponent hw hf he =>
      have hpos : 0 < whole.length := List.length_pos_iff.2 hw.1
      have hlen : whole.length ≤ (leadingDigits cs).length :=
        length_le_takeWhile ((List.prefix_append _ _).trans h) hw.2
      have hne : leadingDigits cs ≠ [] := List.length_pos_iff.1 (Nat.lt_of_lt_of_le hpos hlen)
      rw [leadingNumber_eq hne]
      rcases digits_isPrefix h hw.2 (not_digit_of_fraction hf he) with ⟨hnil, -⟩ | ⟨heq, hrest⟩
      · simp only [hnil, List.append_nil, List.length_append]
        omega
      · rw [heq]
        rcases fraction_cases hf he hrest with ⟨rfl, hfl⟩ | ⟨hfeq, herest⟩
        · simp only [List.append_nil, List.length_append]
          omega
        · rw [hfeq]
          have := exponent_length_le he herest
          simp only [List.length_append]
          omega

theorem quote_cases {q : Char} (hq : isQuote q = true) : q = '"' ∨ q = '\'' := by
  simpa [isQuote] using hq

theorem quote_ne_backslash {q : Char} (hq : isQuote q = true) : q ≠ '\\' := by
  rintro rfl
  exact absurd hq (by decide)

theorem closeString_quote (q : Char) (cs : List Char) : closeString q (q :: cs) = some [q] := by
  rw [closeString.eq_def]
  exact if_pos rfl

theorem closeString_plain {q c : Char} {cs : List Char} (hne : c ≠ q) (hback : c ≠ '\\') :
    closeString q (c :: cs) = (closeString q cs).map (c :: ·) := by
  rw [closeString.eq_def]
  simp only [if_neg hne, if_neg hback]

theorem closeString_escape {q d : Char} {cs : List Char} (hq : q ≠ '\\') :
    closeString q ('\\' :: d :: cs) = (closeString q cs).map fun body => '\\' :: d :: body := by
  rw [closeString.eq_def]
  simp only [if_neg hq.symm, if_true]

theorem StringRest.exists_inside {q : Char} {body : List Char} (h : StringRest q body) :
    ∃ inside, body = inside ++ [q] := by
  induction h with
  | close => exact ⟨[], rfl⟩
  | @plain c cs _ _ _ ih =>
      obtain ⟨inside, rfl⟩ := ih
      exact ⟨c :: inside, rfl⟩
  | @escape c cs _ ih =>
      obtain ⟨inside, rfl⟩ := ih
      exact ⟨'\\' :: c :: inside, rfl⟩

theorem closeString_of_stringRest {q : Char} {cs : List Char} (hq : q ≠ '\\')
    (h : StringRest q cs) (rest : List Char) : closeString q (cs ++ rest) = some cs := by
  induction h with
  | close => exact closeString_quote q rest
  | plain hne hback _ ih => rw [List.cons_append, closeString_plain hne hback, ih]; rfl
  | escape _ ih => rw [List.cons_append, List.cons_append, closeString_escape hq, ih]; rfl

theorem stringRest_of_closeString {q : Char} {cs body : List Char}
    (h : closeString q cs = some body) : StringRest q body ∧ body <+: cs := by
  fun_induction closeString q cs generalizing body with
  | case1 => cases h
  | case2 cs =>
      cases h
      exact ⟨.close, ⟨cs, rfl⟩⟩
  | case3 => cases h
  | case4 hne d ds ih =>
      obtain ⟨inner, hinner, rfl⟩ := Option.map_eq_some_iff.1 h
      obtain ⟨hrest, hpre⟩ := ih hinner
      exact ⟨.escape hrest, List.cons_prefix_cons.2 ⟨rfl, List.cons_prefix_cons.2 ⟨rfl, hpre⟩⟩⟩
  | case5 c cs hne hback ih =>
      obtain ⟨inner, hinner, rfl⟩ := Option.map_eq_some_iff.1 h
      obtain ⟨hrest, hpre⟩ := ih hinner
      exact ⟨.plain hne hback hrest, List.cons_prefix_cons.2 ⟨rfl, hpre⟩⟩

theorem Mark.eq_of_ofChar? {c : Char} {m : Mark} (h : Mark.ofChar? c = some m) : m.char = c := by
  unfold Mark.ofChar? at h
  split at h <;> cases h <;> rfl

theorem token?_sound {cs : List Char} {t : Token} (h : token? cs = some t) :
    t.WellFormed ∧ t.text <+: cs := by
  cases cs with
  | nil => cases h
  | cons c cs =>
      simp only [token?] at h
      split at h
      · next hname =>
          cases h
          refine ⟨⟨c, _, rfl, hname, fun _ hd => List.mem_takeWhile_imp hd⟩, ?_⟩
          exact List.cons_prefix_cons.2 ⟨rfl, List.takeWhile_prefix _⟩
      · split at h
        · next hdigit =>
            cases h
            exact ⟨.plain (unsigned_leadingNumber (leadingNumber_ne_nil hdigit)),
              leadingNumber_isPrefix _⟩
        · split at h
          · next hminus =>
              subst hminus
              split at h
              · cases h
              · next hne =>
                  cases h
                  exact ⟨.negative (unsigned_leadingNumber hne),
                    List.cons_prefix_cons.2 ⟨rfl, leadingNumber_isPrefix cs⟩⟩
          · split at h
            · next hquote =>
                obtain ⟨body, hbody, rfl⟩ := Option.map_eq_some_iff.1 h
                obtain ⟨hrest, hpre⟩ := stringRest_of_closeString hbody
                exact ⟨⟨c, body, rfl, hquote, hrest⟩, List.cons_prefix_cons.2 ⟨rfl, hpre⟩⟩
            · obtain ⟨m, hm, rfl⟩ := Option.map_eq_some_iff.1 h
              refine ⟨trivial, ⟨cs, ?_⟩⟩
              simp [Token.text, Mark.eq_of_ofChar? hm]

theorem token?_name {c : Char} {cs : List Char} (h : isNameStart c = true) :
    token? (c :: cs) = some (.name (c :: cs.takeWhile isNamePart)) := by
  simp [token?, h]

theorem token?_digit {c : Char} {cs : List Char} (h : isDigit c = true) :
    token? (c :: cs) = some (.number (leadingNumber (c :: cs))) := by
  simp [token?, h, not_nameStart_of_digit h]

theorem token?_minus {cs : List Char} (h : leadingNumber cs ≠ []) :
    token? ('-' :: cs) = some (.number ('-' :: leadingNumber cs)) := by
  have hname : isNameStart '-' = false := by decide
  have hdigit : isDigit '-' = false := by decide
  simp only [token?, hname, hdigit, Bool.false_eq_true, if_false, if_true]

theorem token?_quote {c : Char} {cs : List Char} (h : isQuote c = true) :
    token? (c :: cs) = (closeString c cs).map fun body => .string (c :: body) := by
  rcases quote_cases h with rfl | rfl <;> rfl

theorem token?_mark (m : Mark) (cs : List Char) : token? (m.char :: cs) = some (.mark m) := by
  cases m <;> rfl

theorem Unsigned.exists_digit {cs : List Char} (h : Unsigned cs) :
    ∃ d ds, cs = d :: ds ∧ isDigit d = true := by
  cases h with
  | @mk whole fraction exponent hw =>
      cases whole with
      | nil => exact absurd rfl hw.1
      | cons d ds => exact ⟨d, _, rfl, hw.2 d (by simp)⟩

theorem leadingNumber_ne_nil_of_unsigned {u cs : List Char} (hu : Unsigned u) (h : u <+: cs) :
    leadingNumber cs ≠ [] := by
  obtain ⟨d, ds, rfl, -⟩ := hu.exists_digit
  have hlen := unsigned_length_le hu h
  rw [List.length_cons] at hlen
  exact List.length_pos_iff.1 (by omega)

theorem token?_of_isPrefix {t : Token} {cs : List Char} (ht : t.WellFormed) (h : t.text <+: cs) :
    ∃ u, token? cs = some u ∧ t.text.length ≤ u.text.length ∧ (t.text = u.text → t = u) := by
  cases t with
  | name text =>
      obtain ⟨c, ds, rfl, hc, hds⟩ := ht
      obtain ⟨rest, rfl⟩ := h
      refine ⟨_, token?_name hc, ?_, congrArg Token.name⟩
      exact Nat.succ_le_succ (length_le_takeWhile ⟨rest, rfl⟩ hds)
  | number text =>
      cases ht with
      | plain hu =>
          have hlen := unsigned_length_le hu h
          obtain ⟨d, ds, rfl, hd⟩ := hu.exists_digit
          obtain ⟨rest, rfl⟩ := h
          exact ⟨_, token?_digit hd, hlen, congrArg Token.number⟩
      | @negative ds hu =>
          obtain ⟨rest, rfl⟩ := h
          have hpre : ds <+: ds ++ rest := ⟨rest, rfl⟩
          refine ⟨_, token?_minus (leadingNumber_ne_nil_of_unsigned hu hpre), ?_,
            congrArg Token.number⟩
          exact Nat.succ_le_succ (unsigned_length_le hu hpre)
  | string text =>
      obtain ⟨quote, ds, rfl, hquote, hrest⟩ := ht
      obtain ⟨rest, rfl⟩ := h
      refine ⟨.string (quote :: ds), ?_, Nat.le_refl _, fun _ => rfl⟩
      have hclose := closeString_of_stringRest (quote_ne_backslash hquote) hrest rest
      simp only [Token.text, List.cons_append, token?_quote hquote, hclose, Option.map_some]
  | mark m =>
      obtain ⟨rest, rfl⟩ := h
      exact ⟨.mark m, token?_mark m rest, Nat.le_refl _, fun _ => rfl⟩

theorem token?_eq_some_iff {cs : List Char} {t : Token} :
    token? cs = some t ↔ ∃ rest, Lexeme cs t rest := by
  constructor
  · intro h
    obtain ⟨hwf, rest, hsplit⟩ := token?_sound h
    refine ⟨rest, hwf, hsplit.symm, ?_⟩
    intro u hu hpre
    obtain ⟨v, hv, hlen, -⟩ := token?_of_isPrefix hu hpre
    obtain rfl : t = v := Option.some.inj (h.symm.trans hv)
    exact hlen
  · rintro ⟨rest, hwf, hsplit, hlongest⟩
    have hpre : t.text <+: cs := ⟨rest, hsplit.symm⟩
    obtain ⟨u, hu, hlen, heq⟩ := token?_of_isPrefix hwf hpre
    obtain ⟨huwf, hupre⟩ := token?_sound hu
    have hback := hlongest u huwf hupre
    have htext : t.text = u.text :=
      (List.prefix_of_prefix_length_le hpre hupre hlen).eq_of_length (Nat.le_antisymm hlen hback)
    rw [hu, heq htext]

theorem Lexeme.token?_eq {cs rest : List Char} {t : Token} (h : Lexeme cs t rest) :
    token? cs = some t :=
  token?_eq_some_iff.2 ⟨rest, h⟩

theorem lexeme_of_token? {cs : List Char} {t : Token} (h : token? cs = some t) :
    Lexeme cs t (cs.drop t.text.length) := by
  obtain ⟨rest, hlex⟩ := token?_eq_some_iff.1 h
  have hrest : cs.drop t.text.length = rest := by rw [hlex.split, List.drop_left]
  rwa [hrest]

end QueryShell.Statement
