import QueryShell.Render.Report

namespace QueryShell.Render

def inside? : List Char → Option (List Char × List Char)
  | [] => none
  | c :: cs =>
      if c = ']' then some ([], cs)
      else if c = '[' then none
      else (inside? cs).map fun p => (c :: p.1, p.2)

theorem inside?_closing (cs : List Char) : inside? (']' :: cs) = some ([], cs) := by
  simp [inside?]

theorem inside?_opening (cs : List Char) : inside? ('[' :: cs) = none := by
  simp [inside?]

theorem inside?_cons {c : Char} (hclosing : c ≠ ']') (hopening : c ≠ '[') (cs : List Char) :
    inside? (c :: cs) = (inside? cs).map fun p => (c :: p.1, p.2) := by
  simp [inside?, hclosing, hopening]

theorem eq_of_inside {cs inside rest : List Char} (h : inside? cs = some (inside, rest)) :
    cs = inside ++ ']' :: rest := by
  induction cs generalizing inside with
  | nil => cases h
  | cons c cs ih =>
      by_cases hclosing : c = ']'
      · subst hclosing
        cases (inside?_closing cs).symm.trans h
        rfl
      by_cases hopening : c = '['
      · subst hopening
        cases (inside?_opening cs).symm.trans h
      rw [inside?_cons hclosing hopening] at h
      obtain ⟨⟨inside', rest'⟩, hinside, heq⟩ := Option.map_eq_some_iff.1 h
      cases heq
      rw [ih hinside]
      rfl

theorem inside?_eq_takeWhile (cs : List Char) :
    (inside? cs).map Prod.fst =
      if cs[(cs.takeWhile fun d => d != ']' && d != '[').length]? == some ']' then
        some (cs.takeWhile fun d => d != ']' && d != '[')
      else none := by
  induction cs with
  | nil => rfl
  | cons c cs ih =>
      by_cases hclosing : c = ']'
      · subst hclosing
        rfl
      by_cases hopening : c = '['
      · subst hopening
        rfl
      have htake : (c :: cs).takeWhile (fun d => d != ']' && d != '[') =
          c :: cs.takeWhile fun d => d != ']' && d != '[' := by simp [hclosing, hopening]
      rw [inside?_cons hclosing hopening, htake, List.length_cons, List.getElem?_cons_succ,
        Option.map_map]
      split at ih
      · next hfound =>
          obtain ⟨p, hp, hfst⟩ := Option.map_eq_some_iff.1 ih
          rw [if_pos hfound, hp, ← hfst]
          rfl
      · next hlost =>
          rw [if_neg hlost, Option.map_eq_none_iff.1 ih]
          rfl

def startsTag (cs : List Char) : Bool :=
  cs.head?.any isTagStart

theorem tagAt?_eq (cs : List Char) :
    tagAt? cs = if startsTag cs then (inside? cs).map Prod.fst else none := by
  cases cs with
  | nil => rfl
  | cons c cs =>
      rw [inside?_eq_takeWhile]
      rfl

theorem exists_of_tagAt {cs inside : List Char} (h : tagAt? cs = some inside) :
    startsTag cs = true ∧ ∃ rest, inside? cs = some (inside, rest) := by
  rw [tagAt?_eq] at h
  split at h
  · next hstart =>
      obtain ⟨⟨inside', rest⟩, hinside, rfl⟩ := Option.map_eq_some_iff.1 h
      exact ⟨hstart, rest, hinside⟩
  · cases h

theorem backslashes_succ (n : Nat) : backslashes (n + 1) = '\\' :: backslashes n := rfl

theorem backslashes_append (n : Nat) (cs : List Char) :
    backslashes (n + 1) ++ cs = backslashes n ++ '\\' :: cs := by
  rw [backslashes, List.replicate_succ', List.append_assoc]
  rfl

theorem escapeTags_slash (n : Nat) (cs : List Char) :
    escapeTags n ('\\' :: cs) = escapeTags (n + 1) cs := by
  simp [escapeTags]

theorem escapeTags_tag {cs : List Char} (h : (tagAt? cs).isSome = true) (n : Nat) :
    escapeTags n ('[' :: cs) = backslashes (2 * n + 1) ++ '[' :: escapeTags 0 cs := by
  simp [escapeTags, h]

theorem escapeTags_cons {c : Char} {cs : List Char} (hslash : c ≠ '\\')
    (h : ¬ (c = '[' ∧ (tagAt? cs).isSome = true)) (n : Nat) :
    escapeTags n (c :: cs) = backslashes n ++ c :: escapeTags 0 cs := by
  simp only [not_and, Bool.not_eq_true] at h
  simp only [escapeTags, if_neg hslash]
  by_cases hopening : c = '['
  · simp [hopening, h hopening]
  · simp [hopening]

theorem inside?_slashes (n : Nat) (cs : List Char) :
    inside? (backslashes n ++ cs) = (inside? cs).map fun p => (backslashes n ++ p.1, p.2) := by
  induction n with
  | zero => simp [backslashes]
  | succ n ih =>
      rw [backslashes_succ, List.cons_append, inside?_cons (by decide) (by decide), ih,
        Option.map_map]
      rfl

theorem inside?_escapeTags (n : Nat) (cs : List Char) :
    inside? (escapeTags n cs) =
      (inside? cs).map fun p => (backslashes n ++ p.1, escapeTags 0 p.2) := by
  induction cs generalizing n with
  | nil =>
      have hslashes := inside?_slashes n []
      rwa [List.append_nil] at hslashes
  | cons c cs ih =>
      by_cases hslash : c = '\\'
      · subst hslash
        rw [escapeTags_slash, ih, inside?_cons (by decide) (by decide), Option.map_map]
        simp only [backslashes_append, Function.comp_def]
      by_cases htag : c = '[' ∧ (tagAt? cs).isSome = true
      · obtain ⟨rfl, htag⟩ := htag
        rw [escapeTags_tag htag, inside?_slashes, inside?_opening, inside?_opening]
        rfl
      rw [escapeTags_cons hslash htag, inside?_slashes]
      by_cases hclosing : c = ']'
      · subst hclosing
        rw [inside?_closing, inside?_closing]
        rfl
      by_cases hopening : c = '['
      · subst hopening
        rw [inside?_opening, inside?_opening]
        rfl
      rw [inside?_cons hclosing hopening, inside?_cons hclosing hopening, ih, Option.map_map,
        Option.map_map, Option.map_map]
      rfl

theorem head?_escapeTags_succ (n : Nat) (cs : List Char) :
    (escapeTags (n + 1) cs).head? = some '\\' := by
  induction cs generalizing n with
  | nil => rfl
  | cons c cs ih =>
      by_cases hslash : c = '\\'
      · subst hslash
        rw [escapeTags_slash]
        exact ih (n + 1)
      by_cases htag : c = '[' ∧ (tagAt? cs).isSome = true
      · obtain ⟨rfl, htag⟩ := htag
        rw [escapeTags_tag htag]
        rfl
      rw [escapeTags_cons hslash htag]
      rfl

theorem startsTag_escapeTags (cs : List Char) : startsTag (escapeTags 0 cs) = startsTag cs := by
  cases cs with
  | nil => rfl
  | cons c cs =>
      by_cases hslash : c = '\\'
      · subst hslash
        rw [escapeTags_slash, startsTag, head?_escapeTags_succ]
        rfl
      by_cases htag : c = '[' ∧ (tagAt? cs).isSome = true
      · obtain ⟨rfl, htag⟩ := htag
        rw [escapeTags_tag htag]
        rfl
      rw [escapeTags_cons hslash htag]
      rfl

theorem tagAt?_escapeTags (cs : List Char) : tagAt? (escapeTags 0 cs) = tagAt? cs := by
  rw [tagAt?_eq, tagAt?_eq, startsTag_escapeTags, inside?_escapeTags, Option.map_map]
  rfl

theorem inside?_snoc (cs : List Char) :
    inside? (cs ++ ['\\']) = (inside? cs).map fun p => (p.1, p.2 ++ ['\\']) := by
  induction cs with
  | nil => rfl
  | cons c cs ih =>
      by_cases hclosing : c = ']'
      · subst hclosing
        rfl
      by_cases hopening : c = '['
      · subst hopening
        rfl
      rw [List.cons_append, inside?_cons hclosing hopening, inside?_cons hclosing hopening, ih,
        Option.map_map, Option.map_map]
      rfl

theorem tagAt?_snoc (cs : List Char) : tagAt? (cs ++ ['\\']) = tagAt? cs := by
  rw [tagAt?_eq, tagAt?_eq, inside?_snoc, Option.map_map]
  cases cs with
  | nil => rfl
  | cons c cs => rfl

theorem escapeTags_snoc (n : Nat) (cs : List Char) :
    escapeTags n (cs ++ ['\\']) = escapeTags n cs ++ ['\\'] := by
  induction cs generalizing n with
  | nil => exact (List.replicate_succ' : backslashes (n + 1) = _)
  | cons c cs ih =>
      by_cases hslash : c = '\\'
      · subst hslash
        rw [List.cons_append, escapeTags_slash, escapeTags_slash, ih]
      by_cases htag : c = '[' ∧ (tagAt? cs).isSome = true
      · obtain ⟨rfl, htag⟩ := htag
        rw [List.cons_append, escapeTags_tag htag, escapeTags_tag (by rwa [tagAt?_snoc]), ih]
        simp
      rw [List.cons_append, escapeTags_cons hslash htag,
        escapeTags_cons hslash (by rwa [tagAt?_snoc]), ih]
      simp

theorem getLast?_escapeTags (n : Nat) (cs : List Char) :
    (escapeTags n cs).getLast? = (backslashes n ++ cs).getLast? := by
  induction cs generalizing n with
  | nil => rw [List.append_nil, escapeTags]
  | cons c cs ih =>
      by_cases hslash : c = '\\'
      · subst hslash
        rw [escapeTags_slash, ih, backslashes_append]
      have hlast : (c :: escapeTags 0 cs).getLast? = (c :: cs).getLast? := by
        rw [List.getLast?_cons, List.getLast?_cons, ih]
        rfl
      by_cases htag : c = '[' ∧ (tagAt? cs).isSome = true
      · obtain ⟨rfl, htag⟩ := htag
        rw [escapeTags_tag htag, List.getLast?_append, List.getLast?_append, hlast,
          List.getLast?_cons]
        rfl
      · rw [escapeTags_cons hslash htag, List.getLast?_append, List.getLast?_append, hlast]

def Spelled (cs text : List Char) : Prop :=
  text = cs ∨ (cs.getLast? = some '\\' ∧ text = cs ++ ['\\'])

theorem exists_spelled (cs : List Char) :
    ∃ text, Spelled cs text ∧ escape cs = escapeTags 0 text := by
  have hlast := getLast?_escapeTags 0 cs
  rw [← List.head?_reverse] at hlast
  unfold escape
  simp only
  split
  · exact ⟨cs, .inl rfl, rfl⟩
  · next hend =>
      rw [hend] at hlast
      exact ⟨cs ++ ['\\'], .inr ⟨hlast.symm, rfl⟩, (escapeTags_snoc 0 cs).symm⟩
  · exact ⟨cs, .inl rfl, rfl⟩

section

variable {n : Nat} {cs : List Char}

theorem length_backslashes (n : Nat) : (backslashes n).length = n :=
  List.length_replicate

theorem takeWhile_slashes (h : cs.head? ≠ some '\\') :
    (backslashes n ++ cs).takeWhile (· == '\\') = backslashes n := by
  have hstop : cs.takeWhile (· == '\\') = [] := by
    cases cs with
    | nil => rfl
    | cons c cs =>
        have hc : c ≠ '\\' := fun hc => h (by rw [hc]; rfl)
        simp [hc]
  rw [List.takeWhile_append_of_pos (by simp [backslashes]), hstop, List.append_nil]

theorem drop_slashes : (backslashes n ++ cs).drop (backslashes n).length = cs :=
  List.drop_left

theorem pieces_nil (fuel position : Nat) (read : List Char) :
    pieces fuel position read [] = textPiece read := by
  cases fuel <;> rfl

variable (fuel position : Nat) (read : List Char)

theorem pieces_char {c : Char} (hslash : c ≠ '\\') (hopening : c ≠ '[') :
    pieces (fuel + 1) position read (c :: cs) = pieces fuel (position + 1) (c :: read) cs := by
  have htake : (c :: cs).takeWhile (· == '\\') = [] := by simp [hslash]
  simp [pieces, htake, hopening]

theorem pieces_slashes (hslash : cs.head? ≠ some '\\') (hopening : cs.head? ≠ some '[') :
    pieces (fuel + 1) position read (backslashes (n + 1) ++ cs) =
      pieces fuel (position + (n + 1)) (backslashes (n + 1) ++ read) cs := by
  have hcons : backslashes (n + 1) ++ cs = '\\' :: (backslashes n ++ cs) := rfl
  rw [hcons, pieces, ← hcons, takeWhile_slashes hslash, drop_slashes, length_backslashes]
  split
  · exact absurd rfl hopening
  · rfl

theorem pieces_opening (h : tagAt? cs = none) :
    pieces (fuel + 1) position read (backslashes n ++ '[' :: cs) =
      pieces fuel (position + n + 1) ('[' :: (backslashes n ++ read)) cs := by
  have hslash : ('[' :: cs).head? ≠ some '\\' := by simp
  obtain ⟨c, rest, hcons⟩ : ∃ c rest, backslashes n ++ '[' :: cs = c :: rest :=
    List.exists_cons_of_ne_nil (by simp)
  rw [hcons, pieces, ← hcons, takeWhile_slashes hslash, drop_slashes, length_backslashes]
  simp only [h]

theorem exists_pieces_char {c : Char} (hslash : c ≠ '\\') (h : c = '[' → tagAt? cs = none)
    (hfuel : n + (cs.length + 1) ≤ fuel) :
    ∃ fuel' position', cs.length ≤ fuel' ∧
      pieces fuel position read (backslashes n ++ c :: cs) =
        pieces fuel' position' (c :: (backslashes n ++ read)) cs := by
  obtain ⟨fuel, rfl⟩ : ∃ f, fuel = f + 1 := ⟨fuel - 1, by omega⟩
  by_cases hopening : c = '['
  · subst hopening
    exact ⟨fuel, _, by omega, pieces_opening fuel position read (h rfl)⟩
  cases n with
  | zero => exact ⟨fuel, _, by omega, pieces_char fuel position read hslash hopening⟩
  | succ n =>
      obtain ⟨fuel, rfl⟩ : ∃ f, fuel = f + 1 := ⟨fuel - 1, by omega⟩
      refine ⟨fuel, position + (n + 1) + 1, by omega, ?_⟩
      rw [pieces_slashes _ _ _ (by simpa using hslash) (by simpa using hopening),
        pieces_char _ _ _ hslash hopening]

theorem pieces_tag {inside : List Char} (h : tagAt? cs = some inside) :
    pieces (fuel + 1) position read ('[' :: cs) =
      textPiece read ++ .tag position inside ::
        pieces fuel (position + inside.length + 2) [] (cs.drop (inside.length + 1)) := by
  have htake : ('[' :: cs).takeWhile (· == '\\') = [] := by simp
  rw [pieces, htake]
  simp only [List.length_nil, List.drop_zero, h]
  simp

theorem pieces_escapedTag {inside : List Char} (h : tagAt? cs = some inside) :
    pieces (fuel + 1) position read (backslashes (2 * n + 1) ++ '[' :: cs) =
      textPiece read ++ textPiece (backslashes n) ++ .text ('[' :: (inside ++ [']'])) ::
        pieces fuel (position + (2 * n + 1) + inside.length + 2) []
          (cs.drop (inside.length + 1)) := by
  have hslash : ('[' :: cs).head? ≠ some '\\' := by simp
  have hcons : backslashes (2 * n + 1) ++ '[' :: cs =
      '\\' :: (backslashes (2 * n) ++ '[' :: cs) := rfl
  have hhalf : (2 * n + 1) / 2 = n := by omega
  have hodd : (2 * n + 1) % 2 = 1 := by omega
  rw [hcons, pieces, ← hcons, takeWhile_slashes hslash, drop_slashes, length_backslashes]
  simp only [h, hhalf, hodd]
  cases n with
  | zero => rfl
  | succ n => simp [textPiece, backslashes]

end

def Spell (ps : List Piece) (cs : List Char) : Prop :=
  ∃ parts : List (List Char), ps = parts.map .text ∧ parts.flatten = cs

theorem Spell.nil : Spell [] [] :=
  ⟨[], rfl, rfl⟩

theorem Spell.text (part : List Char) {ps : List Piece} {cs : List Char} (h : Spell ps cs) :
    Spell (.text part :: ps) (part ++ cs) := by
  obtain ⟨parts, rfl, rfl⟩ := h
  exact ⟨part :: parts, rfl, rfl⟩

theorem Spell.append {ps qs : List Piece} {cs ds : List Char} (hps : Spell ps cs)
    (hqs : Spell qs ds) : Spell (ps ++ qs) (cs ++ ds) := by
  obtain ⟨parts, rfl, rfl⟩ := hps
  obtain ⟨parts', rfl, rfl⟩ := hqs
  exact ⟨parts ++ parts', List.map_append.symm, List.flatten_append⟩

theorem spell_textPiece (read : List Char) : Spell (textPiece read) read.reverse := by
  cases read with
  | nil => exact .nil
  | cons c read =>
      have hone := Spell.nil.text (c :: read).reverse
      rwa [List.append_nil] at hone

theorem reverse_backslashes (n : Nat) : (backslashes n).reverse = backslashes n :=
  List.reverse_replicate

theorem escapeTags_inside {cs inside rest : List Char} (h : inside? cs = some (inside, rest)) :
    escapeTags 0 cs = inside ++ ']' :: escapeTags 0 rest := by
  refine eq_of_inside ?_
  rw [inside?_escapeTags, h]
  rfl

theorem spell_slashes {fuel n : Nat} (position : Nat) (read : List Char) (hfuel : n ≤ fuel) :
    Spell (pieces fuel position read (backslashes n)) (read.reverse ++ backslashes n) := by
  have hread := spell_textPiece (backslashes n ++ read)
  rw [List.reverse_append, reverse_backslashes] at hread
  cases n with
  | zero => rwa [backslashes, List.replicate_zero, pieces_nil]
  | succ n =>
      obtain ⟨fuel, rfl⟩ : ∃ f, fuel = f + 1 := ⟨fuel - 1, by omega⟩
      rwa [← List.append_nil (backslashes (n + 1)), pieces_slashes _ _ _ (by simp) (by simp),
        pieces_nil, List.append_nil]

theorem spell_tag {fuel n : Nat} {cs inside rest : List Char} (htag : tagAt? cs = some inside)
    (hrest : inside? cs = some (inside, rest)) (position : Nat) (read : List Char)
    (h : ∀ position', Spell (pieces fuel position' [] (escapeTags 0 rest)) rest) :
    Spell (pieces (fuel + 1) position read (escapeTags n ('[' :: cs)))
      (read.reverse ++ backslashes n ++ '[' :: cs) := by
  have hdrop : (escapeTags 0 cs).drop (inside.length + 1) = escapeTags 0 rest := by
    rw [escapeTags_inside hrest, ← List.drop_drop, List.drop_left]
    rfl
  have hbefore := (spell_textPiece read).append (spell_textPiece (backslashes n))
  rw [reverse_backslashes] at hbefore
  have hall := hbefore.append ((h (position + (2 * n + 1) + inside.length + 2)).text
    ('[' :: (inside ++ [']'])))
  rw [escapeTags_tag (by rw [htag]; rfl),
    pieces_escapedTag _ _ _ ((tagAt?_escapeTags cs).trans htag), hdrop, eq_of_inside hrest]
  simpa using hall

theorem spell_escapeTags {fuel : Nat} (position n : Nat) (read cs : List Char)
    (hfuel : (escapeTags n cs).length ≤ fuel) :
    Spell (pieces fuel position read (escapeTags n cs)) (read.reverse ++ backslashes n ++ cs) := by
  induction hlength : cs.length using Nat.strongRecOn generalizing fuel position n read cs with
  | ind length ih =>
      cases cs with
      | nil =>
          rw [escapeTags, length_backslashes] at hfuel
          rw [List.append_nil]
          exact spell_slashes position read hfuel
      | cons c cs =>
          rw [List.length_cons] at hlength
          by_cases hslash : c = '\\'
          · subst hslash
            rw [escapeTags_slash] at hfuel ⊢
            have hmore := ih _ (by omega) position (n + 1) read cs hfuel rfl
            rwa [List.append_assoc, backslashes_append, ← List.append_assoc] at hmore
          by_cases htag : c = '[' ∧ (tagAt? cs).isSome = true
          · obtain ⟨rfl, htag⟩ := htag
            obtain ⟨inside, hinside⟩ := Option.isSome_iff_exists.1 htag
            obtain ⟨-, rest, hrest⟩ := exists_of_tagAt hinside
            have hcs := congrArg List.length (eq_of_inside hrest)
            rw [escapeTags_tag htag, escapeTags_inside hrest] at hfuel
            simp only [List.length_append, List.length_cons] at hfuel hcs
            obtain ⟨fuel, rfl⟩ : ∃ f, fuel = f + 1 := ⟨fuel - 1, by omega⟩
            exact spell_tag hinside hrest position read fun position' =>
              ih _ (by omega) position' 0 [] rest (by omega) rfl
          · rw [escapeTags_cons hslash htag] at hfuel ⊢
            simp only [List.length_append, List.length_cons, length_backslashes] at hfuel
            have hnone : c = '[' → tagAt? (escapeTags 0 cs) = none := by
              intro hopening
              rw [tagAt?_escapeTags]
              simpa [hopening] using htag
            obtain ⟨fuel', position', hfuel', heq⟩ :=
              exists_pieces_char fuel position read hslash hnone hfuel
            rw [heq]
            have hmore := ih _ (by omega) position' 0 (c :: (backslashes n ++ read)) cs hfuel' rfl
            simpa [reverse_backslashes, backslashes] using hmore

theorem spell_escape {fuel : Nat} (position : Nat) (read cs : List Char)
    (hfuel : (escape cs).length ≤ fuel) :
    ∃ text, Spelled cs text ∧
      Spell (pieces fuel position read (escape cs)) (read.reverse ++ text) := by
  obtain ⟨text, hspelled, htext⟩ := exists_spelled cs
  rw [htext] at hfuel ⊢
  refine ⟨text, hspelled, ?_⟩
  simpa [backslashes] using spell_escapeTags position 0 read text hfuel

def ShownAs (text shown : List Char) : Prop :=
  ∃ parts : List (List Char), parts.flatten = text ∧
    shown = parts.flatMap fun part => Text.withEmoji (unescapeBrackets part)

theorem Spell.shownAs {ps : List Piece} {text : List Char} (h : Spell ps text) :
    ∃ shown, ShownAs text shown ∧ ∀ openStyles, piecesText openStyles ps = .ok shown := by
  obtain ⟨parts, rfl, rfl⟩ := h
  refine ⟨_, ⟨parts, rfl, rfl⟩, fun openStyles => ?_⟩
  induction parts with
  | nil => rfl
  | cons part parts ih =>
      rw [List.map_cons, piecesText, ih]
      rfl

theorem withEmoji_cons {c : Char} (h : c ≠ ':') (cs : List Char) :
    Text.withEmoji (c :: cs) = c :: Text.withEmoji cs := by
  simp [Text.withEmoji, Text.replaceEmoji, h]

theorem unescapeBrackets_cons {c : Char} (h : c ≠ '\\') (cs : List Char) :
    unescapeBrackets (c :: cs) = c :: unescapeBrackets cs := by
  rw [unescapeBrackets]
  intro _ hslash
  exact absurd hslash h

theorem ShownAs.of_cons {c : Char} (hcolon : c ≠ ':') (hslash : c ≠ '\\') {text shown : List Char}
    (h : ShownAs (c :: text) shown) : ∃ shown', shown = c :: shown' ∧ ShownAs text shown' := by
  obtain ⟨parts, htext, rfl⟩ := h
  induction parts with
  | nil => cases htext
  | cons part parts ih =>
      cases part with
      | nil => exact ih htext
      | cons d part =>
          cases htext
          refine ⟨_, ?_, ⟨part :: parts, rfl, rfl⟩⟩
          rw [List.flatMap_cons, unescapeBrackets_cons hslash, withEmoji_cons hcolon]
          rfl

namespace Console

def errorStyle : List Char :=
  "bold red".toList

theorem pieces_errorMark (fuel : Nat) (cs : List Char) :
    pieces (fuel + 9) 0 [] (errorMark ++ cs) =
      .tag 0 errorStyle :: .text "Error:".toList :: .tag 16 ('/' :: errorStyle) ::
        pieces fuel 28 [' '] cs := by
  have hopened : pieces (fuel + 9) 0 [] (errorMark ++ cs) =
      .tag 0 errorStyle :: pieces (fuel + 8) 10 [] ("Error:[/bold red] ".toList ++ cs) :=
    pieces_tag _ _ _ rfl
  have hread : pieces (fuel + 8) 10 [] ("Error:[/bold red] ".toList ++ cs) =
      pieces (fuel + 2) 16 "Error:".toList.reverse ("[/bold red] ".toList ++ cs) := rfl
  have hclosed : pieces (fuel + 2) 16 "Error:".toList.reverse ("[/bold red] ".toList ++ cs) =
      .text "Error:".toList :: .tag 16 ('/' :: errorStyle) ::
        pieces (fuel + 1) 27 [] (' ' :: cs) :=
    pieces_tag _ _ _ rfl
  rw [hopened, hread, hclosed, pieces_char _ _ _ (by decide) (by decide)]

theorem closeTag_errorStyle :
    closeTag [styleName (tagName errorStyle)] 16 ('/' :: errorStyle) = .ok [] := by
  rfl

theorem piecesText_errorMark (ps : List Piece) :
    piecesText [] (.tag 0 errorStyle :: .text "Error:".toList :: .tag 16 ('/' :: errorStyle) ::
      ps) = (piecesText [] ps).map ("Error:".toList ++ ·) := by
  have hopened : piecesText [] (.tag 0 errorStyle :: .text "Error:".toList ::
      .tag 16 ('/' :: errorStyle) :: ps) =
      (closeTag [styleName (tagName errorStyle)] 16 ('/' :: errorStyle) >>=
        fun openStyles => piecesText openStyles ps) >>= fun cs =>
          pure (Text.withEmoji (unescapeBrackets "Error:".toList) ++ cs) := rfl
  rw [hopened, closeTag_errorStyle]
  change (piecesText [] ps >>= _) = _
  cases piecesText [] ps <;> rfl

/-- A message is shown whole. A backslash at its end is shown twice. -/
def ShownMessage (message shown : List Char) : Prop :=
  ∃ text, Spelled message text ∧ ShownAs text shown

theorem markupText_error (message : List Char) :
    ∃ shown, ShownMessage message shown ∧
      markupText (errorMark ++ escape message) = .ok ("Error: ".toList ++ shown) := by
  have hfuel : (errorMark ++ escape message).length = (escape message).length + 19 + 9 := by
    rw [List.length_append, Nat.add_comm]
    rfl
  obtain ⟨text, hspelled, hspell⟩ :=
    spell_escape 28 [' '] message (Nat.le_add_right (escape message).length 19)
  obtain ⟨all, hall, hok⟩ := hspell.shownAs
  obtain ⟨shown, rfl, hshown⟩ := hall.of_cons (by decide) (by decide)
  refine ⟨shown, ⟨text, hspelled, hshown⟩, ?_⟩
  rw [markupText, hfuel, pieces_errorMark, piecesText_errorMark, hok]
  rfl

end Console

end QueryShell.Render
