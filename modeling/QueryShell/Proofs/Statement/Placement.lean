import QueryShell.Proofs.Statement.OpenString

namespace QueryShell.Statement

theorem Splits.cut {text rest : List Char} {ts : List Token} (h : Splits text ts rest) :
    ∃ consumed, text = consumed ++ rest ∧ Splits consumed ts [] := by
  induction h with
  | done => exact ⟨[], rfl, .done⟩
  | @space c _ _ _ hc _ ih =>
      obtain ⟨consumed, rfl, hcut⟩ := ih
      exact ⟨c :: consumed, rfl, .space hc hcut⟩
  | @comment body text _ _ hb ht _ ih =>
      obtain ⟨consumed, rfl, hcut⟩ := ih
      refine ⟨'/' :: '/' :: (body ++ consumed), by simp, .comment hb ?_ hcut⟩
      cases consumed with
      | nil => simp
      | cons c consumed => simpa using ht
  | @token text _ rest t _ hl _ ih =>
      obtain ⟨consumed, rfl, hcut⟩ := ih
      have hsplit : text = t.text ++ consumed ++ rest := by rw [List.append_assoc, ← hl.split]
      refine ⟨t.text ++ consumed, hsplit, .token ⟨hl.wellFormed, rfl, fun u hu hpre => ?_⟩ hcut⟩
      exact hl.longest u hu (hpre.trans ⟨_, hsplit.symm⟩)

theorem Splits.at_place {text rest : List Char} {ts : List Token} {place : Nat}
    (h : Splits text ts rest) (hplace : place + rest.length = text.length) :
    Splits (text.take place) ts [] ∧ text.drop place = rest := by
  obtain ⟨consumed, rfl, hcut⟩ := h.cut
  obtain rfl : place = consumed.length := by
    rw [List.length_append] at hplace
    omega
  rw [List.take_left, List.drop_left]
  exact ⟨hcut, rfl⟩

structure FirstPlaced (offset : Nat) (cs : List Char) (placed : Nat × Token)
    (more : List (Nat × Token)) (rest next : List Char) : Prop where
  splits : Splits cs [] rest
  lexeme : Lexeme rest placed.2 next
  place : placed.1 + rest.length = offset + cs.length
  more_eq : (scanFrom (placed.1 + placed.2.text.length) next).tokens = more

theorem firstPlaced_of_scanFrom {offset : Nat} {cs : List Char} {placed : Nat × Token}
    {more : List (Nat × Token)} (h : (scanFrom offset cs).tokens = placed :: more) :
    ∃ rest next, FirstPlaced offset cs placed more rest next := by
  obtain ⟨skipped, rest, hcs, hlen, -, hsplits⟩ := ignored_split cs
  have hdrop : cs.drop (ignored false cs) = rest := by rw [hlen, hcs, List.drop_left]
  cases rest with
  | nil =>
      rw [scanFrom_finished hdrop] at h
      cases h
  | cons c rest =>
      cases ht : token? (c :: rest) with
      | none =>
          rw [scanFrom_stuck hdrop ht] at h
          cases h
      | some t =>
          rw [scanFrom_token hdrop ht] at h
          obtain ⟨rfl, hmore⟩ := List.cons.inj h
          refine ⟨c :: rest, _, hsplits, lexeme_of_token? ht, ?_, hmore⟩
          change offset + ignored false cs + (c :: rest).length = offset + cs.length
          rw [hlen, hcs, List.length_append]
          omega

theorem splits_before {offset : Nat} {cs : List Char} {before after : List (Nat × Token)}
    {place : Nat} {t : Token} (h : (scanFrom offset cs).tokens = before ++ (place, t) :: after) :
    ∃ rest next, Splits cs (before.map Prod.snd) rest ∧ Lexeme rest t next ∧
      place + rest.length = offset + cs.length := by
  induction before generalizing offset cs with
  | nil =>
      obtain ⟨rest, next, hfirst⟩ := firstPlaced_of_scanFrom h
      exact ⟨rest, next, hfirst.splits, hfirst.lexeme, hfirst.place⟩
  | cons placed before ih =>
      obtain ⟨middle, tail, hfirst⟩ := firstPlaced_of_scanFrom h
      obtain ⟨rest, next, hsplits, hlex, hplace⟩ := ih hfirst.more_eq
      refine ⟨rest, next, hfirst.splits.trans (.token hfirst.lexeme hsplits), hlex, ?_⟩
      have hlength : middle.length = placed.2.text.length + tail.length := by
        rw [← List.length_append, ← hfirst.lexeme.split]
      have hstart := hfirst.place
      omega

theorem step_of_unexpectedToken {m : Machine} {tokens : List (Nat × Token)} {stop : Stop}
    {place : Nat} {t : Token} (h : outlineFrom m tokens stop = .unexpectedToken place t) :
    ∃ before after last, tokens = before ++ (place, t) :: after ∧
      m.run (before.map Prod.snd) = some last ∧ last.step t = none := by
  induction tokens generalizing m with
  | nil =>
      cases stop with
      | stuck offset c => cases h
      | finished =>
          rw [outlineFrom] at h
          split at h <;> cases h
  | cons placed tokens ih =>
      obtain ⟨offset, u⟩ := placed
      rw [outlineFrom] at h
      split at h
      · next stepped hstep =>
          obtain ⟨before, after, last, rfl, hrun, hnone⟩ := ih h
          refine ⟨(offset, u) :: before, after, last, rfl, ?_, hnone⟩
          rw [List.map_cons, Machine.run_cons_of_step hstep, hrun]
      · next hstep =>
          cases h
          exact ⟨[], tokens, m, rfl, rfl, hstep⟩

theorem viable_snoc_iff {ts : List Token} {t : Token} {m : Machine}
    (hrun : Machine.start.run ts = some m) : Viable (ts ++ [t]) ↔ m.step t ≠ none := by
  rw [viable_iff_run, Machine.run_append, hrun, Option.bind_some]
  cases hstep : m.step t with
  | none => simp [Machine.run, hstep]
  | some next => simp [Machine.run, hstep]

inductive Offends (ts : List Token) : List Char → Prop where
  | token {rest next : List Char} {t : Token} : Lexeme rest t next → ¬ Viable (ts ++ [t]) →
      Offends ts rest
  | character {c : Char} {rest : List Char} : isQuote c = false → Blocked (c :: rest) →
      Offends ts (c :: rest)
  | openString {q : Char} {rest : List Char} : isQuote q = true → Blocked (q :: rest) →
      (∀ text, ¬ Viable (ts ++ [.string text])) → Offends ts (q :: rest)

def FirstOffence (text : List Char) (offset : Nat) : Prop :=
  ∃ ts, Splits (text.take offset) ts [] ∧ Viable ts ∧ Offends ts (text.drop offset)

theorem Offends.ne_nil {ts : List Token} {rest : List Char} (h : Offends ts rest) :
    rest ≠ [] := by
  cases h with
  | token hlex _ =>
      rintro rfl
      cases hlex.token?_eq
  | character => simp
  | openString => simp

theorem FirstOffence.inside {text : List Char} {offset : Nat} (h : FirstOffence text offset) :
    offset < text.length := by
  obtain ⟨ts, -, -, hoffends⟩ := h
  exact Nat.lt_of_not_le fun hle => hoffends.ne_nil (List.drop_eq_nil_of_le hle)

theorem firstOffence_of_splits {text rest : List Char} {ts : List Token} {place : Nat}
    (hsplits : Splits text ts rest) (hplace : place + rest.length = text.length)
    (hviable : Viable ts) (hoffends : Offends ts rest) : FirstOffence text place := by
  obtain ⟨hcut, rfl⟩ := hsplits.at_place hplace
  exact ⟨ts, hcut, hviable, hoffends⟩

theorem firstOffence_of_unexpectedToken {text : List Char} {place : Nat} {t : Token}
    (h : outline text = .unexpectedToken place t) : FirstOffence text place := by
  obtain ⟨before, after, last, htokens, hrun, hstep⟩ := step_of_unexpectedToken h
  obtain ⟨rest, next, hsplits, hlex, hplace⟩ := splits_before htokens
  rw [Nat.zero_add] at hplace
  refine firstOffence_of_splits hsplits hplace (viable_iff_run.2 ⟨last, hrun⟩) (.token hlex ?_)
  rw [viable_snoc_iff hrun]
  exact fun hnot => hnot hstep

theorem LeftOpen.outline_closed {text rest : List Char} {ts : List Token} {q : Char}
    (h : LeftOpen text ts q rest) (hclosed : closeString q (rest ++ [q]) ≠ none)
    (hno : ¬ Viable (ts ++ [closedString q rest])) :
    ∃ place, place + (q :: rest).length = text.length ∧
      outline (text ++ [q]) = .unexpectedToken place (closedString q rest) := by
  obtain ⟨places, place, rfl, hplace, hscan⟩ := (h.append [q]).scanFrom_eq 0
  obtain ⟨m, hrun⟩ := viable_iff_run.1 h.viable
  have htoken := h.token?_closed hclosed
  have hdrop : (q :: (rest ++ [q])).drop (ignored false (q :: (rest ++ [q]))) =
      q :: (rest ++ [q]) := by
    rw [ignored_of_token? htoken, List.drop_zero]
  have hstep : m.step (closedString q rest) = none := by
    rw [viable_snoc_iff hrun] at hno
    exact Classical.not_not.1 hno
  refine ⟨place, ?_, ?_⟩
  · simp only [List.length_cons, List.length_append, List.length_nil] at hplace ⊢
    omega
  · rw [outline, scan, hscan, scanFrom_token hdrop htoken, ignored_of_token? htoken, Nat.add_zero,
      outlineFrom_append hrun, outlineFrom, hstep]

structure LineColumn (text : List Char) (offset : Nat) (line column : Int) : Prop where
  line : line = 1 + (text.take offset).count '\n'
  column : ∃ lines last, text.take offset = lines ++ last ∧
    (lines = [] ∨ ∃ ended, lines = ended ++ ['\n']) ∧ '\n' ∉ last ∧ column = 1 + last.length

theorem lastLine_split (cs : List Char) : ∃ lines, cs = lines ++ lastLine cs ∧
    (lines = [] ∨ ∃ ended, lines = ended ++ ['\n']) ∧ '\n' ∉ lastLine cs := by
  refine ⟨(cs.reverse.dropWhile (· != '\n')).reverse, ?_, ?_, ?_⟩
  · rw [lastLine, ← List.reverse_append, List.takeWhile_append_dropWhile, List.reverse_reverse]
  · have hhead := List.head?_dropWhile_not (· != '\n') cs.reverse
    cases hrest : cs.reverse.dropWhile (· != '\n') with
    | nil => exact .inl rfl
    | cons c rest =>
        rw [hrest] at hhead
        obtain rfl : c = '\n' := by simpa using hhead
        exact .inr ⟨rest.reverse, List.reverse_cons⟩
  · intro hmem
    have hne := List.mem_takeWhile_imp (List.mem_reverse.1 hmem)
    exact absurd hne (by decide)

theorem lineColumn_placeOf (text : List Char) (offset : Nat) :
    LineColumn text offset (placeOf text offset).line (placeOf text offset).column := by
  obtain ⟨lines, hsplit, hlines, hlast⟩ := lastLine_split (text.take offset)
  refine ⟨?_, lines, _, hsplit, hlines, hlast, ?_⟩
  · simp only [placeOf]
    omega
  · simp only [placeOf]
    omega

def Unplaced (e : ShellError) : Prop :=
  e.cause = .wording none none

def PlacedIn (text : List Char) (e : ShellError) : Prop :=
  ∃ offset line column, FirstOffence text offset ∧ LineColumn text offset line column ∧
    e.cause = .wording (some line) (some column)

theorem placedIn_errorAt {text whole : List Char} {offset : Nat} (h : FirstOffence text offset)
    (hwhole : text <+: whole) (what : String) (found : List Char) :
    PlacedIn text (errorAt what found whole offset) := by
  obtain ⟨more, rfl⟩ := hwhole
  have hplace : placeOf (text ++ more) offset = placeOf text offset := by
    rw [placeOf, List.take_append_of_le_length h.inside.le]
    rfl
  refine ⟨offset, _, _, h, lineColumn_placeOf text offset, ?_⟩
  rw [← hplace]
  rfl

section Reading

variable [CharacterNames]

theorem unplaced_of_readForms {forms : List Form} {e : ShellError}
    (h : readForms forms = .malformed e) : Unplaced e := by
  unfold readForms at h
  split at h
  · cases h
  · next fault _ =>
      cases fault with
      | string token fault => cases h; rfl
      | integer digits => cases h

theorem unplaced_of_viable {text : List Char} {ts : List Token} (hsplits : Splits text ts [])
    (hviable : Viable ts) {e : ShellError} (h : read text = .malformed e) : Unplaced e := by
  have hlook := outline_outlook text
  unfold read at h
  split at h
  · cases h
    rfl
  · generalize outline text = out at h hlook
    cases hlook with
    | complete => exact unplaced_of_readForms h
    | unfinished => cases h
    | unexpectedToken hs hno =>
        obtain ⟨vs, rfl, -⟩ := hsplits.factor hs
        exact absurd hviable.left hno
    | unexpectedChar hs _ hblocked =>
        obtain ⟨vs, -, hrest⟩ := hsplits.factor hs
        exact absurd hrest hblocked.not_splits

theorem trial_placed {text rest : List Char} {ts : List Token} {q : Char}
    (h : LeftOpen text ts q rest) {e : ShellError} (htrial : trial text q = .malformed e) :
    Unplaced e ∨ PlacedIn text e := by
  by_cases hclosed : closeString q (rest ++ [q]) = none
  · rw [h.trial_of_dangling hclosed] at htrial
    cases htrial
  · rcases h.trial_cases hclosed with ⟨hno, -⟩ | ⟨-, hmore⟩ | ⟨forms, fault, -, hnodes, hfault⟩
    · obtain ⟨place, hplace, hout⟩ := h.outline_closed hclosed hno
      simp only [trial, hout, classify] at htrial
      cases htrial
      have hoffends : Offends ts (q :: rest) :=
        .openString h.quote h.blocked fun body hbody => hno (hbody.string _)
      have hfirst := firstOffence_of_splits h.splits hplace h.viable hoffends
      exact .inr (placedIn_errorAt hfirst (List.prefix_append text [q]) _ _)
    · rw [hmore] at htrial
      cases htrial
    · rw [hfault] at htrial
      cases fault with
      | string token fault => cases htrial; exact .inl rfl
      | integer digits => cases htrial

theorem read_placed {text : List Char} {e : ShellError} (h : read text = .malformed e) :
    Unplaced e ∨ PlacedIn text e := by
  unfold read at h
  split at h
  · cases h
    exact .inl rfl
  · have hlook := outline_outlook text
    cases hout : outline text with
    | complete forms =>
        rw [hout] at h
        exact .inl (unplaced_of_readForms h)
    | unfinished =>
        rw [hout] at h
        cases h
    | unexpectedToken offset t =>
        rw [hout] at h
        cases h
        have hfirst := firstOffence_of_unexpectedToken hout
        exact .inr (placedIn_errorAt hfirst List.prefix_rfl _ _)
    | unexpectedChar offset c =>
        rw [hout] at h hlook
        cases hlook with
        | unexpectedChar hsplits hviable hblocked hplace =>
            simp only [classify] at h
            split at h
            · next hquote => exact trial_placed ⟨hsplits, hviable, hquote, hblocked⟩ h
            · next hquote =>
                cases h
                have hfirst := firstOffence_of_splits hsplits hplace hviable
                  (.character (by simpa using hquote) hblocked)
                exact .inr (placedIn_errorAt hfirst List.prefix_rfl _ _)

theorem read_position {text : List Char} {e : ShellError} {line column : Int}
    (h : read text = .malformed e) (hcause : e.cause = .wording (some line) (some column)) :
    ∃ offset < text.length, LineColumn text offset line column ∧ FirstOffence text offset ∧
      ∀ e', read (text.take offset) = .malformed e' → Unplaced e' := by
  rcases read_placed h with hnone | ⟨offset, l, c, hfirst, hplace, hsome⟩
  · cases hcause.symm.trans hnone
  · cases hcause.symm.trans hsome
    obtain ⟨ts, hsplits, hviable, -⟩ := id hfirst
    exact ⟨offset, hfirst.inside, hplace, hfirst, fun e' => unplaced_of_viable hsplits hviable⟩

end Reading

def Reading.place? : Reading → Option (Int × Int)
  | .malformed e =>
      match e.cause with
      | .wording (some line) (some column) => some (line, column)
      | _ => none
  | _ => none

theorem malformed_of_place? {r : Reading} {line column : Int} (h : r.place? = some (line, column)) :
    ∃ e, r = .malformed e ∧ e.cause = .wording (some line) (some column) := by
  unfold Reading.place? at h
  split at h
  · next e =>
      split at h
      · next hcause =>
          cases h
          exact ⟨e, rfl, hcause⟩
      · cases h
  · cases h

def followedString : List Char :=
  ['/', '/', '\n', 'A', '(', '"', '\n', '"', ' ', '\'', 'x', '\n', 'y']

theorem read_position_followedString :
    (∃ e, read followedString = .malformed e ∧ e.cause = .wording (some 3) (some 3)) ∧
      ∃ offset < followedString.length, LineColumn followedString offset 3 3 ∧
        FirstOffence followedString offset ∧
        ∀ e', read (followedString.take offset) = .malformed e' → Unplaced e' := by
  have hplace : (read followedString).place? = some (3, 3) := by decide +kernel
  obtain ⟨e, hread, hcause⟩ := malformed_of_place? hplace
  exact ⟨⟨e, hread, hcause⟩, read_position hread hcause⟩

end QueryShell.Statement
