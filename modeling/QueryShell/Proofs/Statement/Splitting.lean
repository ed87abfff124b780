import QueryShell.Proofs.Statement.Terminal

namespace QueryShell.Statement

open Text (isDigit)

inductive Splits : List Char → List Token → List Char → Prop where
  | done {rest : List Char} : Splits rest [] rest
  | space {c : Char} {text rest : List Char} {tokens : List Token} :
      isSpace c = true → Splits text tokens rest → Splits (c :: text) tokens rest
  | comment {body text rest : List Char} {tokens : List Token} :
      '\n' ∉ body → (∀ c ∈ text.head?, c = '\n') → Splits text tokens rest →
      Splits ('/' :: '/' :: (body ++ text)) tokens rest
  | token {text middle rest : List Char} {t : Token} {tokens : List Token} :
      Lexeme text t middle → Splits middle tokens rest → Splits text (t :: tokens) rest

theorem Splits.trans {a b c : List Char} {ts us : List Token} (h : Splits a ts b)
    (h' : Splits b us c) : Splits a (ts ++ us) c := by
  induction h with
  | done => exact h'
  | space hc _ ih => exact .space hc (ih h')
  | comment hb ht _ ih => exact .comment hb ht (ih h')
  | token hl _ ih => exact .token hl (ih h')

theorem Splits.wellFormed {text rest : List Char} {ts : List Token} (h : Splits text ts rest) :
    ∀ t ∈ ts, t.WellFormed := by
  induction h with
  | done => simp
  | space _ _ ih => exact ih
  | comment _ _ _ ih => exact ih
  | token hl _ ih =>
      intro t ht
      rcases List.mem_cons.1 ht with rfl | ht
      · exact hl.wellFormed
      · exact ih t ht

def isStop (c : Char) : Bool :=
  c == '\n' || isQuote c

theorem stop_cases {z : Char} (hz : isStop z = true) : z = '\n' ∨ z = '"' ∨ z = '\'' := by
  simpa [isStop, isQuote, or_assoc] using hz

theorem not_namePart_of_stop {z : Char} (hz : isStop z = true) : isNamePart z = false := by
  rcases stop_cases hz with rfl | rfl | rfl <;> decide

theorem not_digit_of_stop {z : Char} (hz : isStop z = true) : isDigit z = false := by
  rcases stop_cases hz with rfl | rfl | rfl <;> decide

theorem takeWhile_append_stop {p : Char → Bool} {z : Char} (hz : p z = false)
    (a y : List Char) : (a ++ z :: y).takeWhile p = a.takeWhile p := by
  induction a with
  | nil => simp [hz]
  | cons c a ih => simp only [List.cons_append, List.takeWhile_cons, ih]

theorem leadingFraction_cons (c : Char) (cs : List Char) :
    leadingFraction (c :: cs) =
      if c = '.' then (match leadingDigits cs with | [] => [] | ds => '.' :: ds) else [] := by
  split
  · next hc => rw [hc]; rfl
  · next hc =>
      unfold leadingFraction
      split
      · next heq => exact absurd (List.cons.inj heq).1 hc
      · rfl

theorem leadingSign_cons (c : Char) (cs : List Char) :
    leadingSign (c :: cs) = if c = '+' then ['+'] else if c = '-' then ['-'] else [] := by
  unfold leadingSign
  split
  · next heq => rw [(List.cons.inj heq).1]; rfl
  · next heq => rw [(List.cons.inj heq).1]; rfl
  · next hplus hminus =>
      rw [if_neg fun hc => hplus cs (by rw [hc]), if_neg fun hc => hminus cs (by rw [hc])]

section Stop

variable {z : Char} (hz : isStop z = true) (y : List Char)
include hz

theorem leadingDigits_stop (a : List Char) : leadingDigits (a ++ z :: y) = leadingDigits a :=
  takeWhile_append_stop (not_digit_of_stop hz) a y

theorem leadingFraction_stop (a : List Char) :
    leadingFraction (a ++ z :: y) = leadingFraction a := by
  cases a with
  | nil => rcases stop_cases hz with rfl | rfl | rfl <;> rfl
  | cons c a =>
      rw [List.cons_append, leadingFraction_cons, leadingFraction_cons, leadingDigits_stop hz y a]

theorem leadingSign_stop (a : List Char) : leadingSign (a ++ z :: y) = leadingSign a := by
  cases a with
  | nil => rcases stop_cases hz with rfl | rfl | rfl <;> rfl
  | cons c a => rw [List.cons_append, leadingSign_cons, leadingSign_cons]

theorem leadingExponent_stop (a : List Char) :
    leadingExponent (a ++ z :: y) = leadingExponent a := by
  cases a with
  | nil => rcases stop_cases hz with rfl | rfl | rfl <;> rfl
  | cons c a =>
      have hsign : (leadingSign a).length ≤ a.length := (leadingSign_isPrefix a).length_le
      simp only [List.cons_append, leadingExponent, leadingSign_stop hz y a,
        List.drop_append_of_le_length hsign, leadingDigits_stop hz y]

theorem leadingNumber_stop (a : List Char) : leadingNumber (a ++ z :: y) = leadingNumber a := by
  have hwhole : (leadingDigits a).length ≤ a.length := (leadingDigits_isPrefix a).length_le
  have hfraction := (leadingFraction_isPrefix (a.drop (leadingDigits a).length)).length_le
  have hdigits := leadingDigits_stop hz y a
  by_cases h : leadingDigits a = []
  · rw [leadingNumber_of_no_digits h, leadingNumber_of_no_digits (hdigits.trans h)]
  · rw [leadingNumber_eq h, leadingNumber_eq (hdigits ▸ h), hdigits,
      List.drop_append_of_le_length hwhole, leadingFraction_stop hz y,
      List.drop_append_of_le_length hfraction, leadingExponent_stop hz y]

theorem token?_stop {c : Char} (hc : isQuote c = false) (a : List Char) :
    token? (c :: (a ++ z :: y)) = token? (c :: a) := by
  have hname := takeWhile_append_stop (not_namePart_of_stop hz) a y
  have hnumber := leadingNumber_stop hz y (c :: a)
  rw [List.cons_append] at hnumber
  simp only [token?, hname, hnumber, leadingNumber_stop hz y a, hc, Bool.false_eq_true, if_false]

theorem token?_append_stop {a : List Char} {t : Token} (h : token? a = some t) :
    token? (a ++ z :: y) = some t := by
  cases a with
  | nil => cases h
  | cons c a =>
      cases hc : isQuote c with
      | false => rw [List.cons_append, token?_stop hz y hc, h]
      | true =>
          rw [token?_quote hc] at h
          obtain ⟨body, hbody, rfl⟩ := Option.map_eq_some_iff.1 h
          obtain ⟨hrest, rest, rfl⟩ := stringRest_of_closeString hbody
          have hclose := closeString_of_stringRest (quote_ne_backslash hc) hrest (rest ++ z :: y)
          rw [List.cons_append, List.append_assoc, token?_quote hc, hclose, Option.map_some]

theorem token?_of_append_stop {a : List Char} {t : Token} (h : token? (a ++ z :: y) = some t)
    (hlen : t.text.length ≤ a.length) : token? a = some t := by
  cases a with
  | nil =>
      have hpos := text_length_pos_of_token? h
      rw [List.length_nil] at hlen
      omega
  | cons c a =>
      cases hc : isQuote c with
      | false => rwa [List.cons_append, token?_stop hz y hc] at h
      | true =>
          rw [List.cons_append, token?_quote hc] at h
          obtain ⟨body, hbody, rfl⟩ := Option.map_eq_some_iff.1 h
          obtain ⟨hrest, hpre⟩ := stringRest_of_closeString hbody
          have hbodylen : body.length ≤ a.length := by
            simpa [Token.text] using hlen
          obtain ⟨rest, rfl⟩ :=
            List.prefix_of_prefix_length_le hpre (List.prefix_append a (z :: y)) hbodylen
          rw [token?_quote hc, closeString_of_stringRest (quote_ne_backslash hc) hrest rest,
            Option.map_some]

end Stop

theorem lexeme_of_token?_split {text rest : List Char} {t : Token} (h : token? text = some t)
    (hsplit : text = t.text ++ rest) : Lexeme text t rest := by
  have hlex := lexeme_of_token? h
  have hdrop : text.drop t.text.length = rest := by rw [hsplit, List.drop_left]
  rwa [hdrop] at hlex

theorem Splits.suffix {text rest : List Char} {ts : List Token} (h : Splits text ts rest) :
    ∃ consumed, text = consumed ++ rest := by
  induction h with
  | done => exact ⟨[], rfl⟩
  | @space c _ _ _ _ _ ih =>
      obtain ⟨consumed, rfl⟩ := ih
      exact ⟨c :: consumed, rfl⟩
  | @comment body _ _ _ _ _ _ ih =>
      obtain ⟨consumed, rfl⟩ := ih
      exact ⟨'/' :: '/' :: (body ++ consumed), by simp⟩
  | token hl _ ih =>
      obtain ⟨consumed, rfl⟩ := ih
      exact ⟨_, by rw [hl.split, List.append_assoc]⟩

def Sealed (rest more : List Char) : Prop :=
  (∃ quote y, rest = quote :: y ∧ isQuote quote = true) ∨ ∃ y, more = '\n' :: y

theorem Lexeme.append {text middle rest consumed more : List Char} {t : Token}
    (h : Lexeme text t middle) (hmiddle : middle = consumed ++ rest) (hs : Sealed rest more) :
    Lexeme (text ++ more) t (middle ++ more) := by
  have hsplit : text ++ more = t.text ++ (middle ++ more) := by
    rw [← List.append_assoc, ← h.split]
  refine lexeme_of_token?_split ?_ hsplit
  rcases hs with ⟨quote, y, rfl, hquote⟩ | ⟨y, rfl⟩
  · have hstop : isStop quote = true := by simp [isStop, hquote]
    have htext : text = (t.text ++ consumed) ++ quote :: y := by
      rw [h.split, hmiddle, List.append_assoc]
    have hshort : token? (t.text ++ consumed) = some t := by
      refine token?_of_append_stop hstop y ?_ (by simp)
      rw [← htext]
      exact h.token?_eq
    rw [htext, List.append_assoc, List.cons_append]
    exact token?_append_stop hstop (y ++ more) hshort
  · exact token?_append_stop rfl y h.token?_eq

theorem Splits.append {text rest more : List Char} {ts : List Token} (h : Splits text ts rest)
    (hs : Sealed rest more) : Splits (text ++ more) ts (rest ++ more) := by
  induction h with
  | done => exact .done
  | space hc _ ih => exact .space hc (ih hs)
  | @comment body text rest ts hb ht htext ih =>
      have hhead : ∀ c ∈ (text ++ more).head?, c = '\n' := by
        cases text with
        | cons c text => simpa using ht
        | nil =>
            obtain ⟨consumed, hnil⟩ := htext.suffix
            obtain ⟨-, rfl⟩ := List.append_eq_nil_iff.1 hnil.symm
            rcases hs with ⟨_, _, heq, -⟩ | ⟨y, rfl⟩
            · cases heq
            · simp
      have hcomment := Splits.comment hb hhead (ih hs)
      rwa [← List.append_assoc] at hcomment
  | token hl hrest ih =>
      obtain ⟨consumed, hmiddle⟩ := hrest.suffix
      exact .token (hl.append hmiddle hs) (ih hs)

theorem Splits.append_line {text rest : List Char} {ts : List Token} (h : Splits text ts rest)
    (more : List Char) : Splits (text ++ '\n' :: more) ts (rest ++ '\n' :: more) :=
  h.append (.inr ⟨more, rfl⟩)

theorem ignored_space {c : Char} (hc : isSpace c = true) (cs : List Char) :
    ignored false (c :: cs) = ignored false cs + 1 := by
  simp [ignored, hc]

theorem ignored_comment {body text : List Char} (hb : '\n' ∉ body)
    (ht : ∀ c ∈ text.head?, c = '\n') :
    ignored false ('/' :: '/' :: (body ++ text)) = ignored false text + (body.length + 2) := by
  have hinside : ignored true (body ++ text) = ignored false text + body.length := by
    induction body with
    | nil =>
        cases text with
        | nil => rfl
        | cons c text =>
            obtain rfl : c = '\n' := ht c rfl
            rfl
    | cons c body ih =>
        obtain ⟨hc, hb⟩ : '\n' ≠ c ∧ '\n' ∉ body := by simpa using hb
        have hne : (c != '\n') = true := by simpa using hc.symm
        rw [List.cons_append, ignored, hne, ih hb, List.length_cons]
        omega
  have hslash : ignored false ('/' :: '/' :: (body ++ text)) =
      ignored true (body ++ text) + 1 + 1 := rfl
  rw [hslash, hinside]
  omega

theorem token?_space {c : Char} (hc : isSpace c = true) (cs : List Char) :
    token? (c :: cs) = none := by
  simp only [isSpace, Bool.or_eq_true, beq_iff_eq] at hc
  rcases hc with (((rfl | rfl) | rfl) | rfl) | rfl <;> rfl

theorem token?_slash (cs : List Char) : token? ('/' :: cs) = none := rfl

theorem ignored_of_token? {cs : List Char} {t : Token} (h : token? cs = some t) :
    ignored false cs = 0 := by
  cases cs with
  | nil => rfl
  | cons c cs =>
      have hspace : isSpace c = false := by
        rw [Bool.eq_false_iff]
        intro hc
        rw [token?_space hc] at h
        cases h
      have hslash : c ≠ '/' := by
        rintro rfl
        rw [token?_slash] at h
        cases h
      simp [ignored, hspace, hslash]

end QueryShell.Statement
