import QueryShell.Proofs.Statement.Escapes
import QueryShell.Proofs.Statement.Terminal
import QueryShell.Proofs.Text.Numerals

namespace QueryShell.Statement

def letterEscapes : List (Char × Char) :=
  [('\\', '\\'), ('\'', '\''), ('"', '"'), ('a', '\x07'), ('b', '\x08'), ('f', '\x0c'),
    ('n', '\n'), ('r', '\r'), ('t', '\t'), ('v', '\x0b')]

def controls : List Char :=
  ['\x00', '\n', '\r']

open Text (HexAs Numeral)

section

variable [CharacterNames]

inductive EscapeFor : List Char → Str → Prop where
  | letter {c d : Char} : (c, d) ∈ letterEscapes → EscapeFor [c] [.char d]
  | numbered {c : Char} {p : CodePoint} {digits : List Char} :
      (c, digits.length) ∈ Text.numberedEscapes → Numeral HexAs 16 digits p.toNat →
      EscapeFor (c :: digits) [p]
  | octal {p : CodePoint} {digits : List Char} : digits ≠ [] → digits.length ≤ 3 →
      digits.all isOctal = true → Numeral HexAs 8 digits p.toNat → EscapeFor digits [p]
  | named {name : List Char} {c : Char} : name ≠ [] → CharacterNames.named? name = some c →
      EscapeFor ('N' :: '{' :: (name ++ ['}'])) [.char c]
  | unknown {c : Char} : c ∉ letterEscapes.map Prod.fst → c ∉ ['x', 'u', 'U', 'N'] →
      isOctal c = false → c ∉ controls → EscapeFor [c] [.char '\\', .char c]

inductive LineBreak where
  | lf
  | cr
  | crlf

def LineBreak.text : LineBreak → List Char
  | .lf => ['\n']
  | .cr => ['\r']
  | .crlf => ['\r', '\n']

inductive Piece (quote : Char) where
  | plain (c : Char) (hc : c ∉ ['\x00', '\\', quote])
  | escape (text : List Char) (stands : Str) (h : EscapeFor text stands)
  | continuation (b : LineBreak)

namespace Piece

variable {q : Char}

def text : Piece q → List Char
  | plain c _ => [c]
  | escape text _ _ => '\\' :: text
  | continuation b => '\\' :: b.text

/-- What the piece should stand for. -/
def meaning : Piece q → Str
  | plain c _ => [.char c]
  | escape _ stands _ => stands
  | continuation _ => []

/-- What the piece does stand for. -/
def decoded : Piece q → Str
  | continuation .lf => [.char '\\', .char 'n']
  | continuation .cr => [.char '\\', .char 'r']
  | continuation .crlf => [.char '\\', .char 'r', .char '\n']
  | p => p.meaning

def isContinuation : Piece q → Bool
  | continuation _ => true
  | _ => false

def EndsBefore (rest : List Char) : Piece q → Prop
  | plain _ _ => True
  | escape text _ _ => text.all isOctal = true → text.length < 3 →
      ∀ c ∈ rest.head?, isOctal c = false
  | continuation b => b = .cr → rest.head? ≠ some '\n'

end Piece

def written {q : Char} (pieces : List (Piece q)) : List Char :=
  pieces.flatMap Piece.text

def meaning {q : Char} (pieces : List (Piece q)) : Str :=
  pieces.flatMap Piece.meaning

inductive Greedy {q : Char} : List (Piece q) → Prop where
  | nil : Greedy []
  | cons {p : Piece q} {pieces : List (Piece q)} : p.EndsBefore (written pieces) →
      Greedy pieces → Greedy (p :: pieces)

end

theorem mem_letterEscapes_iff {c d : Char} :
    (c, d) ∈ letterEscapes ↔ namedEscape? c = some d := by
  constructor
  · have hall : ∀ p ∈ letterEscapes, namedEscape? p.1 = some p.2 := by decide
    exact hall (c, d)
  · intro h
    unfold namedEscape? at h
    split at h <;> cases h <;> decide

theorem not_octal_quoted {q c : Char} (hq : isQuote q = true) (hc : c = '\\' ∨ c = q) :
    isOctal c = false := by
  rcases hc with rfl | rfl
  · decide
  · rcases quote_cases hq with rfl | rfl <;> decide

theorem namedEscape?_octal {c : Char} (h : isOctal c = true) : namedEscape? c = none := by
  unfold namedEscape?
  split <;> first | rfl | exact absurd h (by decide)

theorem hexEscape?_octal {c : Char} (h : isOctal c = true) : hexEscape? c = none := by
  unfold hexEscape?
  split <;> first | rfl | exact absurd h (by decide)

theorem hexEscape?_unknown {c : Char} (h : c ∉ ['x', 'u', 'U', 'N']) : hexEscape? c = none := by
  unfold hexEscape?
  split <;> first | rfl | exact absurd (by decide) h

theorem hexEscape_of_numeral {digits : List Char} {p : CodePoint} (truncated : String)
    (hdigits : Numeral HexAs 16 digits p.toNat) (rest : List Char) :
    hexEscape digits.length truncated (digits ++ rest) = .reads [p] (1 + digits.length) := by
  obtain ⟨hall, hp⟩ := Text.hexNumeral_iff.1 hdigits
  have hfound : ((digits ++ rest).take digits.length).takeWhile
      (fun c => (Text.hexValue? c).isSome) = digits := by
    rw [List.take_left]
    exact List.takeWhile_eq_self_iff.2 hall
  have hbound : p.toNat ≤ 0x10ffff := Nat.le_of_lt_succ p.toNat_lt
  simp only [hexEscape, hfound, ← hp, Nat.lt_irrefl, if_false, hbound, if_true,
    CodePoint.ofNat_toNat]

theorem octalEscape_of_numeral {digits rest : List Char} {p : CodePoint}
    (hlength : digits.length ≤ 3) (hdigits : digits.all isOctal = true)
    (hends : digits.length < 3 → ∀ c ∈ rest.head?, isOctal c = false)
    (hp : Numeral HexAs 8 digits p.toNat) :
    octalEscape (digits ++ rest) = .reads [p] digits.length := by
  have hall : digits.takeWhile isOctal = digits :=
    List.takeWhile_eq_self_iff.2 (List.all_eq_true.1 hdigits)
  have hfound : ((digits ++ rest).take 3).takeWhile isOctal = digits := by
    rcases Nat.lt_or_eq_of_le hlength with hless | hequal
    · rw [takeWhile_take_append (hends hless), List.take_of_length_le hlength, hall]
    · rw [← hequal, List.take_left, hall]
  simp only [octalEscape, hfound, ← (Text.hexNumeral_iff.1 hp).2, CodePoint.ofNat_toNat]

section

variable [CharacterNames]

theorem plain_of_named {name : List Char} {c : Char}
    (h : CharacterNames.named? name = some c) : '}' ∉ name ∧ '\\' ∉ name ∧
      ∀ d ∈ name, d ∉ controls := by
  have hplain := CharacterNames.plain name c h
  have hno : ∀ d, ¬ (d.isAlphanum = true ∨ d = ' ' ∨ d = '-') → d ∉ name :=
    fun d hd hmem => hd (hplain d hmem)
  refine ⟨hno _ (by decide), hno _ (by decide), fun d hd hcontrol => ?_⟩
  have hall : (controls.all fun e => !(e.isAlphanum || e == ' ' || e == '-')) = true := by decide
  have hnone := List.all_eq_true.1 hall d hcontrol
  exact absurd (hplain d hd) (by simpa [and_assoc] using hnone)

theorem EscapeFor.escapeAt_eq {text rest : List Char} {s : Str} (h : EscapeFor text s)
    (hends : text.all isOctal = true → text.length < 3 →
      ∀ c ∈ rest.head?, isOctal c = false) :
    escapeAt (text ++ rest) = .reads s text.length := by
  cases h with
  | letter hc =>
      rw [mem_letterEscapes_iff] at hc
      simp only [List.cons_append, escapeAt, hc]
      rfl
  | @numbered c p digits hc hdigits =>
      have hall : ∀ p ∈ Text.numberedEscapes, namedEscape? p.1 = none ∧
          (hexEscape? p.1).map Prod.fst = some p.2 := by decide
      obtain ⟨hletter, hhex⟩ := hall _ hc
      obtain ⟨⟨width, truncated⟩, hhex, rfl⟩ := Option.map_eq_some_iff.1 hhex
      simp only [List.cons_append, escapeAt, hletter, hhex]
      rw [hexEscape_of_numeral truncated hdigits, List.length_cons, Nat.add_comm]
  | @octal p digits hne hlength hdigits hp =>
      obtain ⟨o, os, rfl⟩ := List.exists_cons_of_ne_nil hne
      have ho : isOctal o = true := List.all_eq_true.1 hdigits o (by simp)
      have hname : o ≠ 'N' := by
        rintro rfl
        exact absurd ho (by decide)
      simp only [List.cons_append, escapeAt, namedEscape?_octal ho, hexEscape?_octal ho,
        if_neg hname, ho, if_true]
      exact octalEscape_of_numeral hlength hdigits (hends hdigits) hp
  | @named name c hne hname =>
      have hletter : namedEscape? 'N' = none := rfl
      have hhex : hexEscape? 'N' = none := rfl
      simp only [List.cons_append, escapeAt, hletter, hhex, if_true, List.append_assoc,
        List.nil_append]
      rw [nameEscape_of_named (plain_of_named hname).1 hne hname]
      simp only [List.length_cons, List.length_append, List.length_nil]
      congr 1
      omega
  | @unknown c hletter hhex hoctal _ =>
      have hnone : namedEscape? c = none := by
        cases hnamed : namedEscape? c with
        | none => rfl
        | some d =>
            have hmem := mem_letterEscapes_iff.2 hnamed
            exact absurd (List.mem_map.2 ⟨(c, d), hmem, rfl⟩) hletter
      have hname : c ≠ 'N' := by
        rintro rfl
        exact hhex (by decide)
      simp only [List.cons_append, escapeAt, hnone, hexEscape?_unknown hhex, if_neg hname, hoctal,
        Bool.false_eq_true, if_false]
      rfl

end

theorem not_control_of_all {p : Char → Bool} (hp : controls.any p = false) {text : List Char}
    (h : text.all p = true) : ∀ c ∈ text, c ∉ controls := by
  intro c hc hcontrol
  exact List.any_eq_false.1 hp c hcontrol (List.all_eq_true.1 h c hc)

section

variable [CharacterNames]

theorem EscapeFor.not_control {text : List Char} {s : Str} (h : EscapeFor text s) :
    ∀ c ∈ text, c ∉ controls := by
  cases h with
  | @letter c d hc =>
      have hall : ∀ p ∈ letterEscapes, p.1 ∉ controls := by decide
      simpa using hall _ hc
  | @numbered c p digits hc hdigits =>
      have hall : ∀ p ∈ Text.numberedEscapes, p.1 ∉ controls := by decide
      have hhex := List.all_eq_true.2 (Text.hexNumeral_iff.1 hdigits).1
      intro e he
      rcases List.mem_cons.1 he with rfl | he
      · exact hall _ hc
      · exact not_control_of_all (by decide) hhex e he
  | octal _ _ hdigits _ => exact not_control_of_all (by decide) hdigits
  | @named name c _ hname =>
      have hinside := (plain_of_named hname).2.2
      have hframe : ∀ e ∈ ['N', '{', '}'], e ∉ controls := by simp [controls]
      intro e he
      simp only [List.mem_cons, List.mem_append, List.not_mem_nil, or_false] at he
      rcases he with rfl | rfl | he | rfl
      · exact hframe _ (by simp)
      · exact hframe _ (by simp)
      · exact hinside e he
      · exact hframe _ (by simp)
  | unknown _ _ _ hc => simpa using hc

end

theorem escapeLineBreak_of_not_control {c : Char} (h : c ∉ controls) :
    escapeLineBreak c = [c] := by
  unfold escapeLineBreak
  split <;> first | rfl | exact absurd (by decide) h

theorem flatMap_escapeLineBreak {text : List Char} (h : ∀ c ∈ text, c ∉ controls) :
    text.flatMap escapeLineBreak = text := by
  induction text with
  | nil => rfl
  | cons c text ih =>
      rw [List.flatMap_cons, escapeLineBreak_of_not_control (h c (by simp)),
        ih fun d hd => h d (by simp [hd])]
      rfl

theorem head?_flatMap_escapeLineBreak {text : List Char}
    (h : ∀ c ∈ text.head?, isOctal c = false) :
    ∀ c ∈ (text.flatMap escapeLineBreak).head?, isOctal c = false := by
  cases text with
  | nil => exact h
  | cons d text =>
      have hd : isOctal d = false := h d rfl
      intro c hc
      rw [List.flatMap_cons] at hc
      unfold escapeLineBreak at hc
      split at hc
      · cases hc; decide
      · cases hc; decide
      · cases hc; exact hd

theorem nul_not_mem_written [CharacterNames] {q : Char} (pieces : List (Piece q)) :
    '\x00' ∉ written pieces := by
  intro hmem
  obtain ⟨p, -, hp⟩ := List.mem_flatMap.1 hmem
  cases p with
  | plain c hc =>
      obtain rfl := List.mem_singleton.1 hp
      exact hc (by simp)
  | escape _ _ he =>
      rcases List.mem_cons.1 hp with hback | htext
      · exact absurd hback (by decide)
      · exact he.not_control _ htext (by decide)
  | continuation b =>
      have htext : '\x00' ∉ '\\' :: b.text := by
        cases b <;> decide
      exact htext hp

section

variable [CharacterNames]

def Unescapes (text : List Char) (out : Str) : Prop :=
  ∀ position, unescapeFrom position text = .ok out

theorem Unescapes.nil : Unescapes [] [] := by
  intro position
  rw [unescapeFrom]

theorem Unescapes.plain {c : Char} {rest : List Char} {out : Str} (hc : c ≠ '\\')
    (h : Unescapes rest out) : Unescapes (c :: rest) (.char c :: out) := by
  intro position
  rw [unescapeFrom, if_neg hc, h]
  rfl

theorem Unescapes.escape {text rest : List Char} {s out : Str}
    (hread : escapeAt (text ++ rest) = .reads s text.length) (h : Unescapes rest out) :
    Unescapes ('\\' :: (text ++ rest)) (s ++ out) := by
  intro position
  rw [unescapeFrom, if_pos rfl, hread]
  simp only [List.drop_left, h _]
  rfl

theorem Unescapes.letter {c d : Char} {rest : List Char} {out : Str}
    (hc : namedEscape? c = some d) (h : Unescapes rest out) :
    Unescapes ('\\' :: c :: rest) (.char d :: out) := by
  have hread : escapeAt ([c] ++ rest) = .reads [.char d] [c].length := by
    simp only [List.cons_append, escapeAt, hc]
    rfl
  exact .escape hread h

variable {q : Char}

theorem unescapes_piece (p : Piece q) {rest : List Char} {out : Str} (hends : p.EndsBefore rest)
    (h : Unescapes (rest.flatMap escapeLineBreak) out) :
    Unescapes ((p.text ++ rest).flatMap escapeLineBreak) (p.decoded ++ out) := by
  rw [List.flatMap_append]
  cases p with
  | plain c hc =>
      have hback : c ≠ '\\' := by
        rintro rfl
        exact hc (by simp)
      by_cases hlf : c = '\n'
      · subst hlf
        exact h.letter rfl
      · by_cases hcr : c = '\r'
        · subst hcr
          exact h.letter rfl
        · have hplain : c ∉ controls := by
            simp only [controls, List.mem_cons, List.not_mem_nil, or_false, not_or] at hc ⊢
            exact ⟨hc.1, hlf, hcr⟩
          simp only [Piece.text, List.flatMap_cons, escapeLineBreak_of_not_control hplain]
          exact h.plain hback
  | escape text stands he =>
      have htext : Piece.text (.escape text stands he : Piece q) = '\\' :: text := rfl
      have hplain : ∀ c ∈ '\\' :: text, c ∉ controls := by
        intro c hc
        rcases List.mem_cons.1 hc with rfl | hc
        · decide
        · exact he.not_control c hc
      rw [htext, flatMap_escapeLineBreak hplain]
      refine h.escape (he.escapeAt_eq fun hoctal hlength => ?_)
      exact head?_flatMap_escapeLineBreak (hends hoctal hlength)
  | continuation b =>
      have hn : ('n' : Char) ≠ '\\' := by decide
      have hr : ('r' : Char) ≠ '\\' := by decide
      cases b with
      | lf => exact (h.plain hn).letter rfl
      | cr => exact (h.plain hr).letter rfl
      | crlf => exact ((h.letter rfl).plain hr).letter rfl

theorem unescapes_written {pieces : List (Piece q)} (h : Greedy pieces) :
    Unescapes ((written pieces).flatMap escapeLineBreak) (pieces.flatMap Piece.decoded) := by
  induction h with
  | nil => exact .nil
  | @cons p pieces hends _ ih =>
      rw [written, List.flatMap_cons, List.flatMap_cons]
      exact unescapes_piece p hends ih

theorem stringValue_written {pieces : List (Piece q)} (h : Greedy pieces) :
    stringValue (q :: (written pieces ++ [q])) =
      .ok (pieces.flatMap Piece.decoded) := by
  have hnul : (written pieces).contains '\x00' = false := by
    simpa using nul_not_mem_written pieces
  rw [stringValue, unquote, inside_quotes, unescape, hnul, if_neg Bool.false_ne_true,
    unescapes_written h]

end

section

variable [CharacterNames] {q : Char}

theorem Piece.decoded_eq {p : Piece q} (h : p.isContinuation = false) : p.decoded = p.meaning := by
  cases p with
  | plain c hc => rfl
  | escape _ _ he => rfl
  | continuation b => cases h

theorem Piece.length_decoded {p : Piece q} (h : p.isContinuation = true) :
    p.meaning = [] ∧ p.decoded ≠ [] := by
  cases p with
  | plain c hc => cases h
  | escape _ _ he => cases h
  | continuation b => cases b <;> exact ⟨rfl, List.cons_ne_nil _ _⟩

theorem length_meaning_le (pieces : List (Piece q)) :
    (meaning pieces).length ≤ (pieces.flatMap Piece.decoded).length := by
  induction pieces with
  | nil => exact Nat.le_refl 0
  | cons p pieces ih =>
      simp only [meaning, List.flatMap_cons, List.length_append] at ih ⊢
      cases hp : p.isContinuation with
      | false =>
          rw [p.decoded_eq hp]
          omega
      | true =>
          rw [(p.length_decoded hp).1, List.length_nil]
          omega

theorem decoded_eq_meaning_iff (pieces : List (Piece q)) :
    pieces.flatMap Piece.decoded = meaning pieces ↔ ∀ p ∈ pieces, p.isContinuation = false := by
  induction pieces with
  | nil => simp [meaning]
  | cons p pieces ih =>
      simp only [meaning, List.flatMap_cons, List.forall_mem_cons] at ih ⊢
      cases hp : p.isContinuation with
      | false => simp only [p.decoded_eq hp, List.append_cancel_left_eq, ih, true_and]
      | true =>
          obtain ⟨hnil, hsome⟩ := p.length_decoded hp
          have hlength := List.length_pos_iff.2 hsome
          have hle := length_meaning_le pieces
          constructor
          · intro heq
            have hsame := congrArg List.length heq
            simp only [hnil, List.nil_append, List.length_append, meaning] at hsame hle
            omega
          · rintro ⟨hfalse, -⟩
            cases hfalse

def quoteChar (q c : Char) : List Char :=
  if c = '\\' ∨ c = q then ['\\', c] else [c]

theorem escapeFor_quoted {c : Char} (hq : isQuote q = true) (hc : c = '\\' ∨ c = q) :
    EscapeFor [c] [.char c] := by
  rcases hc with rfl | rfl
  · exact .letter (by decide)
  · rcases quote_cases hq with rfl | rfl <;> exact .letter (by decide)

theorem exists_pieces (hq : isQuote q = true) {s : List Char} (hs : '\x00' ∉ s) :
    ∃ pieces : List (Piece q), Greedy pieces ∧ written pieces = s.flatMap (quoteChar q) ∧
      meaning pieces = Str.ofChars s ∧ ∀ p ∈ pieces, p.isContinuation = false := by
  induction s with
  | nil => exact ⟨[], .nil, rfl, rfl, by simp⟩
  | cons c s ih =>
      obtain ⟨hc, hs⟩ : '\x00' ≠ c ∧ '\x00' ∉ s := by simpa using hs
      obtain ⟨pieces, hgreedy, hwritten, hmeaning, hnone⟩ := ih hs
      by_cases hquoted : c = '\\' ∨ c = q
      · refine ⟨.escape _ _ (escapeFor_quoted hq hquoted) :: pieces, .cons ?_ hgreedy, ?_, ?_, ?_⟩
        · intro hoctal
          rw [List.all_cons, not_octal_quoted hq hquoted] at hoctal
          cases hoctal
        · rw [List.flatMap_cons, ← hwritten, quoteChar, if_pos hquoted]
          rfl
        · exact congrArg (.char c :: ·) hmeaning
        · exact List.forall_mem_cons.2 ⟨rfl, hnone⟩
      · have hplain : c ∉ ['\x00', '\\', q] := by
          simpa [hc.symm] using hquoted
        refine ⟨.plain c hplain :: pieces, .cons trivial hgreedy, ?_, ?_, ?_⟩
        · rw [List.flatMap_cons, ← hwritten, quoteChar, if_neg hquoted]
          rfl
        · exact congrArg (.char c :: ·) hmeaning
        · exact List.forall_mem_cons.2 ⟨rfl, hnone⟩

theorem stringValue_meaning_iff {pieces : List (Piece q)} (h : Greedy pieces) :
    stringValue (q :: (written pieces ++ [q])) = .ok (meaning pieces) ↔
      ∀ p ∈ pieces, p.isContinuation = false := by
  rw [stringValue_written h, ← decoded_eq_meaning_iff, Except.ok.injEq]

theorem stringValue_pieces (hq : isQuote q = true) {pieces : List (Piece q)} (h : Greedy pieces) :
    (stringValue (q :: (written pieces ++ [q])) = .ok (meaning pieces) ↔
        ∀ p ∈ pieces, p.isContinuation = false) ∧
      ∀ s : List Char, '\x00' ∉ s →
        stringValue (q :: (s.flatMap (quoteChar q) ++ [q])) = .ok (Str.ofChars s) := by
  refine ⟨stringValue_meaning_iff h, fun s hs => ?_⟩
  obtain ⟨quoted, hgreedy, hwritten, hmeaning, hnone⟩ := exists_pieces hq hs
  rw [← hwritten, (stringValue_meaning_iff hgreedy).2 hnone, hmeaning]

end

def mixedPieces : List (Piece '"') :=
  [.escape ['1', '0', '1'] "A" (.octal (by decide) (by decide) (by decide)
      (Text.hexNumeral_iff.2 ⟨by simp [Text.hexValue?], by decide⟩)),
    .escape ['7'] "\x07" (.octal (by decide) (by decide) (by decide)
      (Text.hexNumeral_iff.2 ⟨by simp [Text.hexValue?], by decide⟩)),
    .plain '\n' (by decide),
    .escape ['x', '4', '1'] "A" (.numbered (by decide)
      (Text.hexNumeral_iff.2 ⟨by simp [Text.hexValue?], by decide⟩)),
    .escape ['q'] "\\q" (.unknown (by decide) (by decide) (by decide) (by decide))]

theorem stringValue_pieces_mixedPieces :
    isQuote '"' = true ∧ Greedy mixedPieces ∧
      stringValue ('"' :: (written mixedPieces ++ ['"'])) = .ok "A\x07\nA\\q" ∧
      '\x00' ∉ ['\\', '\n', '"'] ∧
      stringValue ['"', '\\', '\\', '\n', '\\', '"', '"'] =
        .ok (Str.ofChars ['\\', '\n', '"']) := by
  have hquote : isQuote '"' = true := by decide
  have hgreedy : Greedy mixedPieces := by
    refine .cons ?_ (.cons ?_ (.cons trivial (.cons ?_ (.cons ?_ .nil))))
    · exact fun _ hlength => absurd hlength (by decide)
    · exact fun _ _ c hc => by cases hc; decide
    · exact fun hoctal => absurd hoctal (by decide)
    · exact fun hoctal => absurd hoctal (by decide)
  have hnul : '\x00' ∉ ['\\', '\n', '"'] := by decide
  obtain ⟨hiff, hback⟩ := stringValue_pieces hquote hgreedy
  exact ⟨hquote, hgreedy, hiff.2 (by simp [mixedPieces, Piece.isContinuation]), hnul,
    hback _ hnul⟩

def continuedPieces : List (Piece '"') :=
  [.plain 'a' (by decide), .continuation .lf, .plain 'b' (by decide)]

theorem greedy_continuedPieces : Greedy continuedPieces :=
  .cons trivial (.cons nofun (.cons trivial .nil))

theorem stringValue_continuedPieces :
    Greedy continuedPieces ∧ written continuedPieces = ['a', '\\', '\n', 'b'] ∧
      stringValue ['"', 'a', '\\', '\n', 'b', '"'] = .ok "a\\nb" ∧
      stringValue ['"', 'a', '\\', '\n', 'b', '"'] ≠
        .ok (meaning continuedPieces) := by
  have hvalue := stringValue_written greedy_continuedPieces
  have hread : stringValue ['"', 'a', '\\', '\n', 'b', '"'] = .ok "a\\nb" := hvalue
  refine ⟨greedy_continuedPieces, rfl, hread, ?_⟩
  rw [hread]
  intro heq
  exact absurd (Except.ok.inj heq) (by decide)

end QueryShell.Statement
