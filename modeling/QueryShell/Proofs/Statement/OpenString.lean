import QueryShell.Proofs.Statement.Escapes
import QueryShell.Proofs.Statement.Reading

namespace QueryShell.Statement

theorem closeString_append {q : Char} {rest y body : List Char} (hq : q ≠ '\\')
    (hopen : closeString q rest = none) (h : closeString q (rest ++ y) = some body) :
    ∃ z, z ≠ [] ∧ body = rest ++ z ∧ z <+: y := by
  obtain ⟨hbody, hpre⟩ := stringRest_of_closeString h
  rcases List.prefix_or_prefix_of_prefix hpre (List.prefix_append rest y) with
    ⟨w, rfl⟩ | ⟨z, rfl⟩
  · rw [closeString_of_stringRest hq hbody] at hopen
    cases hopen
  · refine ⟨z, ?_, rfl, (List.prefix_append_right_inj rest).1 hpre⟩
    rintro rfl
    have hclosed := closeString_of_stringRest hq hbody []
    rw [List.append_nil, List.append_nil, hopen] at hclosed
    cases hclosed

theorem newline_ne_quote {q : Char} (hq : isQuote q = true) : '\n' ≠ q := by
  rintro rfl
  exact absurd hq (by decide)

theorem stringRest_line {q : Char} {rest : List Char} (hq : isQuote q = true)
    (hopen : closeString q rest = none) : StringRest q (rest ++ ['\n', q]) := by
  fun_induction closeString q rest with
  | case1 => exact .plain (newline_ne_quote hq) (by decide) .close
  | case2 => cases hopen
  | case3 => exact .escape .close
  | case4 d ds _ ih => exact .escape (ih (Option.map_eq_none_iff.1 hopen))
  | case5 c cs hne hback ih => exact .plain hne hback (ih (Option.map_eq_none_iff.1 hopen))

def oddBackslashes (k : Nat) : List Char :=
  List.replicate (2 * k + 1) '\\'

def EndsOdd (cs : List Char) : Prop :=
  ∃ inside k, cs = inside ++ oddBackslashes k ∧ inside.getLast? ≠ some '\\'

theorem EndsOdd.escape {ds : List Char} (d : Char) (h : EndsOdd ds) :
    EndsOdd ('\\' :: d :: ds) := by
  obtain ⟨inside, k, rfl, hlast⟩ := h
  cases inside with
  | cons c inside =>
      exact ⟨'\\' :: d :: c :: inside, k, rfl, by simpa [List.getLast?_cons] using hlast⟩
  | nil =>
      by_cases hd : d = '\\'
      · subst hd
        exact ⟨[], k + 1, by simp [oddBackslashes, Nat.mul_add, List.replicate_succ], by simp⟩
      · exact ⟨['\\', d], k, rfl, by simpa using hd⟩

theorem EndsOdd.plain {c : Char} {cs : List Char} (hc : c ≠ '\\') (h : EndsOdd cs) :
    EndsOdd (c :: cs) := by
  obtain ⟨inside, k, rfl, hlast⟩ := h
  cases inside with
  | cons d inside => exact ⟨c :: d :: inside, k, rfl, by simpa [List.getLast?_cons] using hlast⟩
  | nil => exact ⟨[c], k, rfl, by simpa using hc⟩

theorem endsOdd_of_open {q : Char} {rest : List Char} (hopen : closeString q rest = none)
    (hclosed : closeString q (rest ++ [q]) = none) : EndsOdd rest := by
  fun_induction closeString q rest with
  | case1 => rw [List.nil_append, closeString_quote] at hclosed; cases hclosed
  | case2 => cases hopen
  | case3 => exact ⟨[], 0, rfl, by simp⟩
  | case4 d ds hne ih =>
      have hq : q ≠ '\\' := Ne.symm hne
      rw [List.cons_append, List.cons_append, closeString_escape hq] at hclosed
      exact .escape d (ih (Option.map_eq_none_iff.1 hopen) (Option.map_eq_none_iff.1 hclosed))
  | case5 c cs hne hback ih =>
      rw [List.cons_append, closeString_plain hne hback] at hclosed
      exact .plain hback (ih (Option.map_eq_none_iff.1 hopen) (Option.map_eq_none_iff.1 hclosed))

theorem Viable.string {ts : List Token} {a : List Char} (h : Viable (ts ++ [.string a]))
    (b : List Char) : Viable (ts ++ [.string b]) := by
  obtain ⟨m, hrun⟩ := viable_iff_run.1 h
  rw [Machine.run_append] at hrun
  obtain ⟨next, hnext, hlast⟩ := Option.bind_eq_some_iff.1 hrun
  obtain ⟨last, hstep, -⟩ := Option.bind_eq_some_iff.1 hlast
  have hstep' : ∃ last', next.step (.string b) = some last' := by
    unfold Machine.step at hstep ⊢
    cases hturn : next.turn with
    | form closable => exact ⟨_, rfl⟩
    | key pairs => exact ⟨_, rfl⟩
    | after form => rw [hturn] at hstep; cases hstep
    | colon pairs key => rw [hturn] at hstep; cases hstep
  obtain ⟨last', hstep'⟩ := hstep'
  refine viable_iff_run.2 ⟨last', ?_⟩
  rw [Machine.run_append, hnext, Option.bind_some, Machine.run_cons_of_step hstep']
  rfl

theorem Blocked.closeString_eq {q : Char} {rest : List Char} (h : Blocked (q :: rest))
    (hq : isQuote q = true) : closeString q rest = none := by
  have htoken := h.no_token
  rw [token?_quote hq] at htoken
  exact Option.map_eq_none_iff.1 htoken

theorem Splits.string_cases {q : Char} {cs : List Char} {ts : List Token}
    (h : Splits (q :: cs) ts []) (hq : isQuote q = true) :
    ∃ body us rest, closeString q cs = some body ∧ cs = body ++ rest ∧
      ts = .string (q :: body) :: us ∧ Splits rest us [] := by
  have hsplit : isSpace q = false ∧ q ≠ '/' := by
    rcases quote_cases hq with rfl | rfl <;> decide
  cases h with
  | space hspace => rw [hsplit.1] at hspace; cases hspace
  | comment => exact absurd rfl hsplit.2
  | token hlex hrest =>
      have htoken := hlex.token?_eq
      rw [token?_quote hq] at htoken
      obtain ⟨body, hbody, rfl⟩ := Option.map_eq_some_iff.1 htoken
      exact ⟨body, _, _, hbody, (List.cons.inj hlex.split).2, rfl, hrest⟩

structure LeftOpen (text : List Char) (ts : List Token) (q : Char) (rest : List Char) : Prop where
  splits : Splits text ts (q :: rest)
  viable : Viable ts
  quote : isQuote q = true
  blocked : Blocked (q :: rest)

theorem LeftOpen.closeString_eq {text rest : List Char} {ts : List Token} {q : Char}
    (h : LeftOpen text ts q rest) : closeString q rest = none :=
  h.blocked.closeString_eq h.quote

theorem LeftOpen.append {text rest : List Char} {ts : List Token} {q : Char}
    (h : LeftOpen text ts q rest) (more : List Char) :
    Splits (text ++ more) ts (q :: (rest ++ more)) :=
  h.splits.append (.inl ⟨q, rest, rfl, h.quote⟩)

theorem LeftOpen.goes_on {text rest more : List Char} {ts us : List Token} {q : Char}
    (h : LeftOpen text ts q rest) (hus : Splits (q :: (rest ++ '\n' :: more)) us []) :
    ∃ inside vs, us = .string (q :: (rest ++ '\n' :: inside ++ [q])) :: vs := by
  obtain ⟨body, vs, _, hclose, -, rfl, -⟩ := hus.string_cases h.quote
  obtain ⟨z, hz, rfl, w, hw⟩ :=
    closeString_append (quote_ne_backslash h.quote) h.closeString_eq hclose
  obtain ⟨inside, hinside⟩ := (stringRest_of_closeString hclose).1.exists_inside
  cases z with
  | nil => exact absurd rfl hz
  | cons c z =>
      obtain ⟨rfl, -⟩ := List.cons.inj hw
      rcases List.eq_nil_or_concat z with rfl | ⟨z, d, rfl⟩
      · have hlast := (List.append_inj' hinside rfl).2
        exact absurd (List.cons.inj hlast).1 (newline_ne_quote h.quote)
      · rw [List.concat_eq_append, ← List.cons_append, ← List.append_assoc] at hinside
        obtain ⟨-, hlast⟩ := List.append_inj' hinside rfl
        obtain rfl : d = q := (List.cons.inj hlast).1
        exact ⟨z, vs, by simp⟩

def closedString (q : Char) (inside : List Char) : Token :=
  .string (q :: (inside ++ [q]))

theorem reads_cut [CharacterNames] {q : Char} {inside more tail : List Char}
    (h : (Token.string (q :: (inside ++ '\n' :: more ++ [q]))).Reads)
    (hwf : (closedString q (inside ++ tail)).WellFormed) (htail : tail = [] ∨ tail = ['\n']) :
    (closedString q (inside ++ tail)).Reads := by
  obtain ⟨s, hs⟩ := h
  obtain ⟨s', hs'⟩ := stringValue_cut ⟨s, hs.stringValue_eq⟩ htail
  exact ⟨s', (stringValue_eq_ok_iff hwf).1 hs'⟩

theorem LeftOpen.token?_closed {text rest : List Char} {ts : List Token} {q : Char}
    (h : LeftOpen text ts q rest) (hclosed : closeString q (rest ++ [q]) ≠ none) :
    token? (q :: (rest ++ [q])) = some (closedString q rest) := by
  obtain ⟨body, hbody⟩ := Option.ne_none_iff_exists'.1 hclosed
  obtain ⟨z, hz, rfl, hpre⟩ :=
    closeString_append (quote_ne_backslash h.quote) h.closeString_eq hbody
  obtain rfl : z = [q] := by
    rcases List.prefix_cons_iff.1 hpre with rfl | ⟨z', rfl, hz'⟩
    · exact absurd rfl hz
    · rw [List.prefix_nil.1 hz']
  rw [token?_quote h.quote, hbody]
  rfl

theorem LeftOpen.closed {text rest : List Char} {ts : List Token} {q : Char}
    (h : LeftOpen text ts q rest) (hclosed : closeString q (rest ++ [q]) ≠ none) :
    Splits (text ++ [q]) (ts ++ [closedString q rest]) [] := by
  refine (h.append [q]).trans (.token (lexeme_of_token?_split (h.token?_closed hclosed) ?_) .done)
  simp [closedString, Token.text]

theorem LeftOpen.wellFormed {text rest : List Char} {ts : List Token} {q : Char}
    (h : LeftOpen text ts q rest) (hclosed : closeString q (rest ++ [q]) ≠ none) :
    ∀ t ∈ ts ++ [closedString q rest], t.WellFormed :=
  (h.closed hclosed).wellFormed

theorem LeftOpen.still_open {text rest : List Char} {ts : List Token} {q : Char}
    (h : LeftOpen text ts q rest) (hopen : closeString q (rest ++ [q]) = none) :
    LeftOpen (text ++ [q]) ts q (rest ++ [q]) := by
  refine ⟨h.append [q], h.viable, h.quote, by simp, ?_, ?_⟩
  · rcases quote_cases h.quote with rfl | rfl <;> rfl
  · rw [token?_quote h.quote, hopen]
    rfl

theorem LeftOpen.outline_eq {text rest : List Char} {ts : List Token} {q : Char}
    (h : LeftOpen text ts q rest) : ∃ offset, outline text = .unexpectedChar offset q := by
  obtain ⟨places, place, rfl, -, hscan⟩ := h.splits.scanFrom_eq 0
  rw [h.blocked.scanFrom_eq, List.append_nil] at hscan
  obtain ⟨m, hrun⟩ := viable_iff_run.1 h.viable
  refine ⟨place, ?_⟩
  rw [outline, scan, hscan]
  exact outlineFrom_of_run _ hrun

section Trial

variable [CharacterNames] {text rest : List Char} {ts : List Token} {q : Char}

theorem LeftOpen.trial_of_dangling (h : LeftOpen text ts q rest)
    (hopen : closeString q (rest ++ [q]) = none) : trial text q = .incomplete := by
  obtain ⟨offset, hout⟩ := (h.still_open hopen).outline_eq
  simp only [trial, hout, classify, h.quote, if_true]

theorem LeftOpen.trial_cases (h : LeftOpen text ts q rest)
    (hclosed : closeString q (rest ++ [q]) ≠ none) :
    (¬ Viable (ts ++ [closedString q rest]) ∧ ∃ e, trial text q = .malformed e) ∨
      (Viable (ts ++ [closedString q rest]) ∧ trial text q = .incomplete) ∨
      ∃ forms fault, Program (ts ++ [closedString q rest]) forms ∧
        formsToNodes forms = .error fault ∧ trial text q = fault.toReading := by
  have hlook := outline_outlook (text ++ [q])
  have hsplits := h.closed hclosed
  simp only [trial]
  generalize outline (text ++ [q]) = out at hlook
  cases hlook with
  | @complete us forms hs hprogram =>
      obtain rfl := hs.unique hsplits
      cases hnodes : formsToNodes forms with
      | ok nodes =>
          refine .inr (.inl ⟨hprogram.viable, ?_⟩)
          simp only [classify, readForms, hnodes]
      | error fault =>
          refine .inr (.inr ⟨forms, fault, hprogram, hnodes, ?_⟩)
          simp only [classify, readForms, hnodes]
          cases fault <;> rfl
  | unfinished hs hviable =>
      obtain rfl := hs.unique hsplits
      exact .inr (.inl ⟨hviable, rfl⟩)
  | unexpectedToken hs hno =>
      obtain ⟨vs, hvs, -⟩ := hsplits.factor hs
      refine .inl ⟨fun hviable => hno ?_, _, rfl⟩
      rw [hvs] at hviable
      exact hviable.left
  | unexpectedChar hs _ hblocked =>
      obtain ⟨vs, -, hrest⟩ := hsplits.factor hs
      exact absurd hrest hblocked.not_splits

end Trial

end QueryShell.Statement
