import QueryShell.Proofs.Statement.Pieces

namespace QueryShell.Statement

open Text (HexAs Numeral)

theorem exists_octal_digit {c : Char} (h : isOctal c = true) : ∃ d < 8, HexAs c d := by
  obtain ⟨hlow, hhigh⟩ : 48 ≤ c.toNat ∧ c.toNat ≤ 55 := Text.char_between h
  have hall : ∀ k < 8, HexAs (Char.ofNat (48 + k)) k := by
    unfold HexAs
    decide
  have hc := hall (c.toNat - 48) (by omega)
  rw [Nat.add_sub_cancel' hlow, Char.ofNat_toNat] at hc
  exact ⟨_, by omega, hc⟩

theorem exists_octal_digits {digits : List Char} (h : digits.all isOctal = true) :
    ∃ ds, List.Forall₂ HexAs digits ds ∧ ds.length = digits.length ∧ ∀ d ∈ ds, d < 8 := by
  induction digits with
  | nil => exact ⟨[], .nil, rfl, by simp⟩
  | cons c digits ih =>
      rw [List.all_cons, Bool.and_eq_true] at h
      obtain ⟨ds, hds, hlength, hlt⟩ := ih h.2
      obtain ⟨d, hd, hc⟩ := exists_octal_digit h.1
      exact ⟨d :: ds, .cons hc hds, by simpa using hlength, by simpa using ⟨hd, hlt⟩⟩

theorem exists_octalNumeral {digits : List Char} (hlength : digits.length ≤ 3)
    (hdigits : digits.all isOctal = true) :
    ∃ p : CodePoint, Numeral HexAs 8 digits p.toNat := by
  obtain ⟨ds, hds, hcount, hlt⟩ := exists_octal_digits hdigits
  have hbound : Nat.ofDigits 8 ds.reverse < 8 ^ ds.reverse.length :=
    Nat.ofDigits_lt_base_pow_length (by decide) (by simpa using hlt)
  have hpow : 8 ^ ds.reverse.length ≤ 8 ^ 3 := by
    rw [List.length_reverse, hcount]
    exact Nat.pow_le_pow_right (by decide) hlength
  exact ⟨.ofNat _, ds, hds, CodePoint.toNat_ofNat (by omega)⟩

theorem takeWhile_take_split (p : Char → Bool) (n : Nat) (cs : List Char) :
    ∃ rest, cs = (cs.take n).takeWhile p ++ rest ∧
      (((cs.take n).takeWhile p).length < n → ∀ d ∈ rest.head?, p d = false) := by
  induction cs generalizing n with
  | nil => exact ⟨[], by simp, by simp⟩
  | cons c cs ih =>
      cases n with
      | zero => exact ⟨c :: cs, by simp, by simp⟩
      | succ n =>
          cases hc : p c with
          | false => exact ⟨c :: cs, by simp [hc], by simpa using fun _ => hc⟩
          | true =>
              obtain ⟨rest, hrest, hstop⟩ := ih n
              refine ⟨rest, ?_, ?_⟩
              · rw [List.take_succ_cons, List.takeWhile_cons_of_pos hc, List.cons_append, ← hrest]
              · simpa [hc] using hstop

theorem octal_of_octalEscape {c : Char} {cs : List Char} (hc : isOctal c = true) {s : Str}
    {count : Nat} (h : octalEscape (c :: cs) = .reads s count) :
    ∃ tail rest p, cs = tail ++ rest ∧ s = [p] ∧ count = (c :: tail).length ∧
      (c :: tail).length ≤ 3 ∧ (c :: tail).all isOctal = true ∧
        Numeral HexAs 8 (c :: tail) p.toNat ∧
      ((c :: tail).length < 3 → ∀ d ∈ rest.head?, isOctal d = false) := by
  obtain ⟨rest, hrest, hstop⟩ := takeWhile_take_split isOctal 3 (c :: cs)
  have hall := fun d => List.mem_takeWhile_imp (p := isOctal) (l := (c :: cs).take 3) (x := d)
  have hmost := (List.takeWhile_prefix isOctal (l := (c :: cs).take 3)).length_le
  have hfirst : ((c :: cs).take 3).takeWhile isOctal = c :: (cs.take 2).takeWhile isOctal := by
    rw [List.take_succ_cons, List.takeWhile_cons_of_pos hc]
  rw [octalEscape] at h
  rw [List.length_take] at hmost
  rw [hfirst] at h hrest hstop hall hmost
  generalize (cs.take 2).takeWhile isOctal = tail at *
  have hlength : (c :: tail).length ≤ 3 := by omega
  have hoctal : (c :: tail).all isOctal = true := List.all_eq_true.2 hall
  obtain ⟨p, hp⟩ := exists_octalNumeral hlength hoctal
  cases h
  refine ⟨tail, rest, p, (List.cons.inj hrest).2, ?_, rfl, hlength, hoctal, hp, hstop⟩
  rw [← (Text.hexNumeral_iff.1 hp).2, CodePoint.ofNat_toNat]

theorem numeral_of_hexEscape {digits : Nat} {truncated : String} {cs : List Char} {s : Str}
    {count : Nat} (h : hexEscape digits truncated cs = .reads s count) :
    ∃ found rest p, cs = found ++ rest ∧ found.length = digits ∧ s = [p] ∧ count = 1 + digits ∧
      Numeral HexAs 16 found p.toNat := by
  have hall := fun c => List.mem_takeWhile_imp (p := fun c => (Text.hexValue? c).isSome)
    (l := cs.take digits) (x := c)
  have hpre := (List.takeWhile_prefix (fun c => (Text.hexValue? c).isSome)
    (l := cs.take digits)).trans (List.take_prefix digits cs)
  have hmost := (List.takeWhile_prefix (fun c => (Text.hexValue? c).isSome)
    (l := cs.take digits)).length_le
  simp only [hexEscape] at h
  generalize (cs.take digits).takeWhile (fun c => (Text.hexValue? c).isSome) = found at *
  obtain ⟨rest, rfl⟩ := hpre
  rw [List.length_take] at hmost
  split at h
  · cases h
  · next hleast =>
      split at h
      · next hcode =>
          cases h
          refine ⟨found, rest, _, rfl, by omega, rfl, rfl, Text.hexNumeral_iff.2 ⟨hall, ?_⟩⟩
          exact CodePoint.toNat_ofNat (Nat.lt_succ_of_le hcode)
      · cases h

theorem numbered_of_hexEscape? {c : Char} {digits : Nat} {truncated : String}
    (h : hexEscape? c = some (digits, truncated)) : (c, digits) ∈ Text.numberedEscapes := by
  unfold hexEscape? at h
  split at h <;> cases h <;> decide

variable {q : Char}

theorem StringRest.after {tail rest : List Char} (hback : '\\' ∉ tail) (hrest : rest ≠ [])
    (h : StringRest q (tail ++ rest)) : StringRest q rest := by
  induction tail with
  | nil => exact h
  | cons c tail ih =>
      obtain ⟨hc, htail⟩ : '\\' ≠ c ∧ '\\' ∉ tail := by simpa using hback
      generalize hbody : c :: tail ++ rest = body at h
      cases h with
      | close => exact absurd (List.append_eq_nil_iff.1 (List.cons.inj hbody).2).2 hrest
      | plain _ _ hmore =>
          obtain ⟨rfl, rfl⟩ := List.cons.inj hbody
          exact ih htail hmore
      | escape _ => exact absurd (List.cons.inj hbody).1.symm hc

theorem split_escapeLineBreak {tail rest cs : List Char} (hback : '\\' ∉ tail)
    (h : cs.flatMap escapeLineBreak = tail ++ rest) :
    ∃ more, cs = tail ++ more ∧ more.flatMap escapeLineBreak = rest := by
  induction tail generalizing cs with
  | nil => exact ⟨cs, rfl, h⟩
  | cons d tail ih =>
      obtain ⟨hd, htail⟩ : '\\' ≠ d ∧ '\\' ∉ tail := by simpa using hback
      cases cs with
      | nil => cases h
      | cons e cs =>
          rw [List.flatMap_cons] at h
          unfold escapeLineBreak at h
          split at h
          · exact absurd (List.cons.inj h).1 hd
          · exact absurd (List.cons.inj h).1 hd
          · obtain ⟨rfl, hcs⟩ := List.cons.inj h
            obtain ⟨more, rfl, hmore⟩ := ih htail hcs
            exact ⟨more, rfl, hmore⟩

theorem head?_of_flatMap_escapeLineBreak {text : List Char}
    (h : ∀ c ∈ (text.flatMap escapeLineBreak).head?, isOctal c = false) :
    ∀ c ∈ text.head?, isOctal c = false := by
  cases text with
  | nil => exact h
  | cons d text =>
      rintro c ⟨⟩
      by_cases hd : d ∈ controls
      · have hall : ∀ e ∈ controls, isOctal e = false := by simp [controls, isOctal]
        exact hall d hd
      · rw [List.flatMap_cons, escapeLineBreak_of_not_control hd] at h
        exact h d rfl

theorem StringRest.unescaped {c : Char} {cs : List Char} (hc : c ≠ '\\')
    (h : StringRest q (c :: (cs ++ [q]))) : c ≠ q ∧ StringRest q (cs ++ [q]) := by
  generalize hrest : cs ++ [q] = rest at h
  cases h with
  | close => simp at hrest
  | plain hne _ hmore => exact ⟨hne, hmore⟩
  | escape _ => exact absurd rfl hc

theorem StringRest.escaped {cs : List Char} (hq : q ≠ '\\')
    (h : StringRest q ('\\' :: (cs ++ [q]))) :
    ∃ d ds, cs = d :: ds ∧ StringRest q (ds ++ [q]) := by
  generalize hrest : cs ++ [q] = rest at h
  cases h with
  | close => exact absurd rfl hq
  | plain _ hback _ => exact absurd rfl hback
  | @escape d ds hmore =>
      cases cs with
      | nil =>
          obtain ⟨rfl, rfl⟩ := List.cons.inj hrest
          cases hmore
      | cons e es =>
          obtain ⟨rfl, rfl⟩ := List.cons.inj hrest
          exact ⟨e, es, rfl, hmore⟩

section

variable [CharacterNames] {c d : Char} {tail rest cs : List Char} {s : Str} {count : Nat}

/-- An escape, and what follows it: another octal digit would belong to a short octal escape. -/
structure EscapeHead (c : Char) (tail rest : List Char) (s : Str) : Prop where
  escape : EscapeFor (c :: tail) s
  unescaped : '\\' ∉ tail
  ends : (c :: tail).all isOctal = true → (c :: tail).length < 3 →
    ∀ d ∈ rest.head?, isOctal d = false

def StartsWithEscape (c : Char) (cs : List Char) (s : Str) (count : Nat) : Prop :=
  ∃ tail rest, cs = tail ++ rest ∧ count = (c :: tail).length ∧ EscapeHead c tail rest s

theorem EscapeHead.of_not_octal (hc : isOctal c = false) (he : EscapeFor (c :: tail) s)
    (hback : '\\' ∉ tail) : EscapeHead c tail rest s where
  escape := he
  unescaped := hback
  ends hall := by
    rw [List.all_cons, hc] at hall
    cases hall

theorem startsWithEscape_letter (hd : namedEscape? c = some d) :
    StartsWithEscape c cs [.char d] 1 := by
  have hoctal : isOctal c = false := by
    by_contra hoctal
    rw [namedEscape?_octal (eq_true_of_ne_false hoctal)] at hd
    cases hd
  exact ⟨[], cs, rfl, rfl, .of_not_octal hoctal (.letter (mem_letterEscapes_iff.2 hd)) (by simp)⟩

theorem startsWithEscape_numbered {digits : Nat} {truncated : String}
    (hhex : hexEscape? c = some (digits, truncated))
    (h : hexEscape digits truncated cs = .reads s count) : StartsWithEscape c cs s count := by
  obtain ⟨found, rest, p, rfl, rfl, rfl, rfl, hp⟩ := numeral_of_hexEscape h
  have hoctal : isOctal c = false := by
    by_contra hoctal
    rw [hexEscape?_octal (eq_true_of_ne_false hoctal)] at hhex
    cases hhex
  have hback : '\\' ∉ found := by
    intro hmem
    exact absurd ((Text.hexNumeral_iff.1 hp).1 _ hmem) (by decide)
  exact ⟨found, rest, rfl, Nat.add_comm .., .of_not_octal hoctal
    (.numbered (numbered_of_hexEscape? hhex) hp) hback⟩

theorem startsWithEscape_named (h : nameEscape cs = .reads s count) :
    StartsWithEscape 'N' cs s count := by
  obtain ⟨name, rest, d, rfl, -, hne, hname, rfl, rfl⟩ := named_of_nameEscape h
  have hback : '\\' ∉ '{' :: (name ++ ['}']) := by
    simp only [List.mem_cons, List.mem_append, List.not_mem_nil, or_false, not_or]
    exact ⟨by decide, (plain_of_named hname).2.1, by decide⟩
  refine ⟨'{' :: (name ++ ['}']), rest, by simp, ?_,
    .of_not_octal (by decide) (.named hne hname) hback⟩
  simp only [List.length_cons, List.length_append, List.length_nil]
  omega

theorem startsWithEscape_octal (hoctal : isOctal c = true)
    (h : octalEscape (c :: cs) = .reads s count) : StartsWithEscape c cs s count := by
  obtain ⟨tail, rest, p, rfl, rfl, rfl, hlength, hall, hp, hstop⟩ := octal_of_octalEscape hoctal h
  refine ⟨tail, rest, rfl, rfl, .octal (List.cons_ne_nil _ _) hlength hall hp, ?_, fun _ => hstop⟩
  intro hmem
  exact absurd (List.all_eq_true.1 hall _ (List.mem_cons_of_mem _ hmem)) (by decide)

theorem startsWithEscape_unknown (hc : c ∉ controls) (hletter : namedEscape? c = none)
    (hhex : hexEscape? c = none) (hN : c ≠ 'N') (hoctal : isOctal c = false) :
    StartsWithEscape c cs [.char '\\', .char c] 1 := by
  refine ⟨[], cs, rfl, rfl, .of_not_octal hoctal (.unknown ?_ ?_ hoctal hc) (by simp)⟩
  · intro hmem
    obtain ⟨⟨e, d⟩, hed, rfl⟩ := List.mem_map.1 hmem
    rw [mem_letterEscapes_iff.1 hed] at hletter
    cases hletter
  · intro hmem
    simp only [List.mem_cons, List.not_mem_nil, or_false] at hmem
    rcases hmem with rfl | rfl | rfl | rfl
    · cases hhex
    · cases hhex
    · cases hhex
    · exact hN rfl

theorem startsWithEscape (hc : c ∉ controls) (h : escapeAt (c :: cs) = .reads s count) :
    StartsWithEscape c cs s count := by
  simp only [escapeAt] at h
  split at h
  · next d hd =>
      cases h
      exact startsWithEscape_letter hd
  · next hletter =>
      split at h
      · next hhex => exact startsWithEscape_numbered hhex h
      · next hhex =>
          split at h
          · next hN =>
              subst hN
              exact startsWithEscape_named h
          · next hN =>
              split at h
              · next hoctal => exact startsWithEscape_octal hoctal h
              · next hoctal =>
                  cases h
                  exact startsWithEscape_unknown hc hletter hhex hN (by simpa using hoctal)

end

variable [CharacterNames]

theorem Legible.tail {c : Char} {cs : List Char} (hc : c ≠ '\\') (h : Legible (c :: cs)) :
    Legible cs := by
  cases h with
  | plain _ hcs => exact hcs
  | escape _ _ => exact absurd rfl hc

theorem Legible.after {cs : List Char} {s : Str} {count : Nat}
    (hread : escapeAt cs = .reads s count) (h : Legible ('\\' :: cs)) :
    Legible (cs.drop count) := by
  cases h with
  | plain hc _ => exact absurd rfl hc
  | escape hread' hmore =>
      cases hread.symm.trans hread'
      exact hmore

theorem Piece.length_text_pos (p : Piece q) : 0 < p.text.length := by
  cases p with
  | plain c hc => exact Nat.zero_lt_one
  | escape text s he => exact Nat.succ_pos _
  | continuation b => exact Nat.succ_pos _

theorem Legible.letter {c d : Char} {cs : List Char} (hc : namedEscape? c = some d)
    (h : Legible ('\\' :: c :: cs)) : Legible cs := by
  have hread : escapeAt (c :: cs) = .reads [.char d] 1 := by simp only [escapeAt, hc]
  exact h.after hread

/-- The inside of a string that can be read. -/
structure Readable (q : Char) (inside : List Char) : Prop where
  nul : '\x00' ∉ inside
  body : StringRest q (inside ++ [q])
  legible : Legible (inside.flatMap escapeLineBreak)

def StartsWithPiece (q : Char) (inside : List Char) : Prop :=
  ∃ (p : Piece q) (rest : List Char), inside = p.text ++ rest ∧ p.EndsBefore rest ∧
    Readable q rest

theorem Readable.startsWith_plain {c : Char} {cs : List Char} (hc : c ≠ '\\')
    (h : Readable q (c :: cs)) : StartsWithPiece q (c :: cs) := by
  obtain ⟨hnul, hcs⟩ : '\x00' ≠ c ∧ '\x00' ∉ cs := by simpa using h.nul
  obtain ⟨hne, hbody⟩ := h.body.unescaped hc
  have hlegible := h.legible
  rw [List.flatMap_cons] at hlegible
  have hplain : c ∉ ['\x00', '\\', q] := by simpa using ⟨hnul.symm, hc, hne⟩
  refine ⟨.plain c hplain, cs, rfl, trivial, hcs, hbody, ?_⟩
  unfold escapeLineBreak at hlegible
  split at hlegible
  · exact hlegible.letter rfl
  · exact hlegible.letter rfl
  · exact hlegible.tail hc

theorem Readable.startsWith_continuation {ds : List Char} (hq : q ≠ '\\') {d : Char}
    (hd : d = '\n' ∨ d = '\r') (h : Readable q ('\\' :: d :: ds)) :
    StartsWithPiece q ('\\' :: d :: ds) := by
  have hn : ('n' : Char) ≠ '\\' := by decide
  have hr : ('r' : Char) ≠ '\\' := by decide
  have hnul : '\x00' ∉ ds := fun hmem => h.nul (by simp [hmem])
  obtain ⟨_, _, heq, hbody⟩ := h.body.escaped hq
  obtain ⟨rfl, rfl⟩ := List.cons.inj heq
  have hlegible := h.legible
  rcases hd with rfl | rfl
  · exact ⟨.continuation .lf, ds, rfl, nofun, hnul, hbody, (hlegible.letter rfl).tail hn⟩
  · have hrest : Legible (ds.flatMap escapeLineBreak) := (hlegible.letter rfl).tail hr
    by_cases hlf : ds.head? = some '\n'
    · obtain ⟨es, rfl⟩ := List.head?_eq_some_iff.1 hlf
      exact ⟨.continuation .crlf, es, rfl, nofun, fun hmem => hnul (List.mem_cons_of_mem _ hmem),
        (hbody.unescaped (by decide)).2, hrest.letter rfl⟩
    · exact ⟨.continuation .cr, ds, rfl, fun _ => hlf, hnul, hbody, hrest⟩

theorem Readable.startsWith_escape {d : Char} {ds : List Char} (hq : q ≠ '\\')
    (hd : ¬ (d = '\n' ∨ d = '\r')) (h : Readable q ('\\' :: d :: ds)) :
    StartsWithPiece q ('\\' :: d :: ds) := by
  have hnul : '\x00' ∉ d :: ds := fun hmem => h.nul (List.mem_cons_of_mem _ hmem)
  obtain ⟨_, _, heq, hbody⟩ := h.body.escaped hq
  obtain ⟨rfl, rfl⟩ := List.cons.inj heq
  have hplain : d ∉ controls := by
    simp only [controls, List.mem_cons, List.not_mem_nil, or_false, not_or] at hnul hd ⊢
    exact ⟨Ne.symm hnul.1, hd⟩
  have hlegible : Legible ('\\' :: d :: ds.flatMap escapeLineBreak) := by
    have hall := h.legible
    simp only [List.flatMap_cons, escapeLineBreak_of_not_control hplain] at hall
    exact hall
  cases hlegible with
  | plain hback _ => exact absurd rfl hback
  | @escape _ s count hread hmore =>
      obtain ⟨tail, rest, hsplit, rfl, he, hback, hends⟩ := startsWithEscape hplain hread
      obtain ⟨more, rfl, rfl⟩ := split_escapeLineBreak hback hsplit
      rw [hsplit, ← List.cons_append, List.drop_left] at hmore
      rw [List.append_assoc] at hbody
      refine ⟨.escape (d :: tail) s he, more, rfl, ?_, ?_, hbody.after hback (by simp), hmore⟩
      · exact fun hall hshort => head?_of_flatMap_escapeLineBreak (hends hall hshort)
      · exact fun hmem => hnul (by simp [hmem])

theorem Readable.startsWithPiece (hq : q ≠ '\\') {inside : List Char} (h : Readable q inside)
    (hne : inside ≠ []) : StartsWithPiece q inside := by
  obtain ⟨c, cs, rfl⟩ := List.exists_cons_of_ne_nil hne
  by_cases hc : c = '\\'
  · subst hc
    obtain ⟨d, ds, rfl, -⟩ := h.body.escaped hq
    by_cases hd : d = '\n' ∨ d = '\r'
    · exact h.startsWith_continuation hq hd
    · exact h.startsWith_escape hq hd
  · exact h.startsWith_plain hc

theorem Readable.exists_pieces (hq : q ≠ '\\') {inside : List Char} (h : Readable q inside) :
    ∃ pieces : List (Piece q), Greedy pieces ∧ written pieces = inside := by
  induction hlength : inside.length using Nat.strongRecOn generalizing inside with
  | ind length ih =>
      by_cases hne : inside = []
      · exact ⟨[], .nil, hne.symm⟩
      · obtain ⟨p, rest, rfl, hends, hrest⟩ := h.startsWithPiece hq hne
        have hshorter : rest.length < length := by
          have hpos := p.length_text_pos
          rw [List.length_append] at hlength
          omega
        obtain ⟨pieces, hgreedy, rfl⟩ := ih _ hshorter hrest rfl
        exact ⟨p :: pieces, .cons hends hgreedy, by rw [written, List.flatMap_cons, written]⟩

/-- What a string stands for, read piece by piece. -/
inductive DenotesString : List Char → Str → Prop where
  | pieces {q : Char} {pieces : List (Piece q)} : isQuote q = true → Greedy pieces →
      DenotesString (q :: (written pieces ++ [q])) (pieces.flatMap Piece.decoded)

theorem DenotesString.stringValue_eq {token : List Char} {s : Str} (h : DenotesString token s) :
    stringValue token = .ok s := by
  cases h with
  | pieces _ hgreedy => exact stringValue_written hgreedy

theorem stringValue_eq_ok_iff {token : List Char} (h : (Token.string token).WellFormed) {s : Str} :
    stringValue token = .ok s ↔ DenotesString token s := by
  refine ⟨fun hs => ?_, DenotesString.stringValue_eq⟩
  obtain ⟨q, body, rfl, hq, hbody⟩ := h
  obtain ⟨inside, rfl⟩ := hbody.exists_inside
  obtain ⟨hnul, hlegible⟩ := unescape_ok_iff.1 (stringValue_ok_iff.1 ⟨s, hs⟩)
  rw [inside_quotes] at hnul hlegible
  obtain ⟨pieces, hgreedy, rfl⟩ :=
    Readable.exists_pieces (quote_ne_backslash hq) ⟨hnul, hbody, hlegible⟩
  cases (stringValue_written hgreedy).symm.trans hs
  exact .pieces hq hgreedy

end QueryShell.Statement
