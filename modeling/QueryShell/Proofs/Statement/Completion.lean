import QueryShell.Proofs.Statement.OpenString

namespace QueryShell.Statement

theorem Token.WellFormed.token?_eq {t : Token} (h : t.WellFormed) : token? t.text = some t := by
  obtain ⟨u, hu, hlen, heq⟩ := token?_of_isPrefix h (List.prefix_refl t.text)
  have hpre := (token?_sound hu).2
  rw [hu, heq (hpre.eq_of_length (Nat.le_antisymm hpre.length_le hlen)).symm]

def tokenLines (ts : List Token) : List Char :=
  ts.flatMap fun t => t.text ++ ['\n']

theorem splits_tokenLines {ts : List Token} (h : ∀ t ∈ ts, t.WellFormed) :
    Splits (tokenLines ts) ts [] := by
  induction ts with
  | nil => exact .done
  | cons t ts ih =>
      have htext : tokenLines (t :: ts) = t.text ++ '\n' :: tokenLines ts := by
        simp [tokenLines]
      have htoken := token?_append_stop (z := '\n') rfl (tokenLines ts) (h t (by simp)).token?_eq
      rw [htext]
      refine .token (lexeme_of_token?_split htoken rfl) ?_
      exact .space rfl (ih fun u hu => h u (by simp [hu]))

theorem Splits.append_tokenLines {text : List Char} {ts us : List Token} (h : Splits text ts [])
    (hus : ∀ u ∈ us, u.WellFormed) : Splits (text ++ '\n' :: tokenLines us) (ts ++ us) [] :=
  (h.append_line (tokenLines us)).trans (.space rfl (splits_tokenLines hus))

theorem wellFormed_zeroToken : zeroToken.WellFormed := by
  have hdigits : Digits ['0'] := by
    refine ⟨by simp, fun c hc => ?_⟩
    rw [List.mem_singleton.1 hc]
    rfl
  exact .plain (.mk hdigits .absent .absent)

def closedTokens (text : List Char) : List Token :=
  (scan text).tokens.map Prod.snd ++
    match (scan text).stop with
    | .finished => []
    | .stuck offset c => [closedString c (text.drop (offset + 1) ++ ['\n'])]

theorem Splits.closedTokens_eq {text : List Char} {ts : List Token} (h : Splits text ts []) :
    closedTokens text = ts := by
  obtain ⟨places, place, rfl, -, hscan⟩ := h.scanFrom_eq 0
  rw [scanFrom_nil, List.append_nil] at hscan
  rw [closedTokens, scan, hscan, List.append_nil]

theorem LeftOpen.closedTokens_eq {text rest : List Char} {ts : List Token} {q : Char}
    (h : LeftOpen text ts q rest) :
    closedTokens text = ts ++ [closedString q (rest ++ ['\n'])] := by
  obtain ⟨places, place, rfl, hplace, hscan⟩ := h.splits.scanFrom_eq 0
  obtain ⟨consumed, rfl⟩ := h.splits.suffix
  rw [h.blocked.scanFrom_eq, List.append_nil] at hscan
  have hlen : place = consumed.length := by
    simp only [List.length_append, List.length_cons] at hplace
    omega
  have hdrop : (consumed ++ q :: rest).drop (place + 1) = rest := by
    rw [hlen, ← List.drop_drop, List.drop_left]
    rfl
  simp only [closedTokens, scan, hscan]
  rw [hdrop]

theorem LeftOpen.closed_line {text rest : List Char} {ts : List Token} {q : Char}
    (h : LeftOpen text ts q rest) :
    Splits (text ++ ['\n', q]) (ts ++ [closedString q (rest ++ ['\n'])]) [] := by
  have hrest := stringRest_line h.quote h.closeString_eq
  have hclose := closeString_of_stringRest (quote_ne_backslash h.quote) hrest []
  rw [List.append_nil] at hclose
  have htoken : token? (q :: (rest ++ ['\n', q])) = some (closedString q (rest ++ ['\n'])) := by
    rw [token?_quote h.quote, hclose]
    simp [closedString]
  refine (h.append ['\n', q]).trans (.token (lexeme_of_token?_split htoken ?_) .done)
  simp [closedString, Token.text]

theorem LeftOpen.not_closed {text rest body : List Char} {ts : List Token} {q : Char}
    (h : LeftOpen text ts q rest) (hbody : StringRest q body) : ¬ body <+: rest := by
  rintro ⟨after, rfl⟩
  have hopen := h.closeString_eq
  rw [closeString_of_stringRest (quote_ne_backslash h.quote) hbody] at hopen
  cases hopen

/-- The text is left open in a string whose place is one where no string may stand. -/
structure StrayString (text : List Char) (ts : List Token) (q : Char) (rest : List Char) :
    Prop where
  splits : Splits text ts (q :: rest)
  quote : isQuote q = true
  not_closed : ∀ body, StringRest q body → ¬ body <+: rest
  odd : EndsOdd rest
  nowhere : ∀ body, ¬ Viable (ts ++ [.string body])

def EndsAstray (text : List Char) : Prop :=
  ∃ ts q rest, StrayString text ts q rest

theorem EndsAstray.getLast? {text : List Char} (h : EndsAstray text) :
    text.getLast? = some '\\' := by
  obtain ⟨ts, q, rest, h⟩ := h
  obtain ⟨consumed, rfl⟩ := h.splits.suffix
  obtain ⟨inside, k, rfl, -⟩ := h.odd
  simp [oddBackslashes, List.getLast?_append, List.getLast?_cons, List.getLast?_replicate]

theorem mem_completion {m : Machine} {t : Token} (h : t ∈ m.completion) :
    t = zeroToken ∨ ∃ mark, t = .mark mark := by
  rcases List.mem_append.1 h with h | h
  · cases hturn : m.turn with
    | form closable => rw [hturn] at h; exact .inl (List.mem_singleton.1 h)
    | after form => rw [hturn] at h; cases h
    | key pairs => rw [hturn] at h; exact .inr ⟨_, List.mem_singleton.1 h⟩
    | colon pairs key =>
        rw [hturn] at h
        simp only [Turn.completion, List.mem_cons, List.not_mem_nil, or_false] at h
        rcases h with rfl | rfl | rfl
        · exact .inr ⟨_, rfl⟩
        · exact .inl rfl
        · exact .inr ⟨_, rfl⟩
  · obtain ⟨frame, -, rfl⟩ := List.mem_map.1 h
    exact .inr ⟨_, rfl⟩

section

variable [CharacterNames]

theorem reads_zeroToken : zeroToken.Reads :=
  ⟨.int 0, (numberValue_eq_ok_iff wellFormed_zeroToken).1 rfl⟩

theorem Splits.exists_completion {text : List Char} {ts : List Token} (h : Splits text ts [])
    (hviable : Viable ts) (hreads : ∀ t ∈ ts, t.Reads) :
    ∃ more nodes, read (text ++ '\n' :: more) = .parsed nodes := by
  obtain ⟨m, hrun⟩ := viable_iff_run.1 hviable
  obtain ⟨last, forms, hlast, hfinish⟩ := m.run_completion
  have hprogram : Program (ts ++ m.completion) forms := by
    refine program_iff_run.2 ⟨last, ?_, hfinish⟩
    rw [Machine.run_append, hrun]
    exact hlast
  have hwf : ∀ t ∈ m.completion, t.WellFormed := by
    intro t ht
    rcases mem_completion ht with rfl | ⟨mark, rfl⟩
    · exact wellFormed_zeroToken
    · trivial
  have hall : ∀ t ∈ ts ++ m.completion, t.Reads := by
    intro t ht
    rcases List.mem_append.1 ht with ht | ht
    · exact hreads t ht
    · rcases mem_completion ht with rfl | ⟨mark, rfl⟩
      · exact reads_zeroToken
      · trivial
  obtain ⟨nodes, hnodes⟩ := read_eq_parsed_of_reads (h.append_tokenLines hwf) hprogram hall
  exact ⟨tokenLines m.completion, nodes, hnodes⟩

theorem cases_of_incomplete {text : List Char} (h : read text = .incomplete) :
    (∃ ts, Splits text ts [] ∧ Viable ts) ∨
      ∃ ts q rest, LeftOpen text ts q rest ∧ trial text q = .incomplete := by
  have hlook := outline_outlook text
  unfold read at h
  split at h
  · cases h
  · generalize outline text = out at h hlook
    cases hlook with
    | @complete ts forms hsplits hprogram => exact .inl ⟨ts, hsplits, hprogram.viable⟩
    | unfinished hsplits hviable => exact .inl ⟨_, hsplits, hviable⟩
    | unexpectedToken => cases h
    | @unexpectedChar ts offset c rest hsplits hviable hblocked =>
        cases hc : isQuote c with
        | false =>
            simp only [classify, hc, Bool.false_eq_true, if_false] at h
            cases h
        | true =>
            simp only [classify, hc, if_true] at h
            exact .inr ⟨ts, c, rest, ⟨hsplits, hviable, hc, hblocked⟩, h⟩

theorem wellFormed_closedTokens {text : List Char} (h : read text = .incomplete) :
    ∀ t ∈ closedTokens text, t.WellFormed := by
  rcases cases_of_incomplete h with ⟨ts, hsplits, -⟩ | ⟨ts, q, rest, hopen, -⟩
  · rw [hsplits.closedTokens_eq]
    exact hsplits.wellFormed
  · rw [hopen.closedTokens_eq]
    exact hopen.closed_line.wellFormed

theorem LeftOpen.viable_of_trial {text rest : List Char} {ts : List Token} {q : Char}
    (h : LeftOpen text ts q rest) (htrial : trial text q = .incomplete)
    (hplace : ¬ EndsAstray text) : Viable (ts ++ [closedString q (rest ++ ['\n'])]) := by
  by_cases hopen : closeString q (rest ++ [q]) = none
  · by_contra hno
    have hnowhere : ∀ body, ¬ Viable (ts ++ [.string body]) :=
      fun body hviable => hno (hviable.string _)
    exact hplace ⟨ts, q, rest, h.splits, h.quote, fun _ => h.not_closed,
      endsOdd_of_open h.closeString_eq hopen, hnowhere⟩
  · rcases h.trial_cases hopen with ⟨-, e, he⟩ | ⟨hviable, -⟩ | ⟨forms, fault, -, -, hfault⟩
    · rw [htrial] at he
      cases he
    · exact hviable.string _
    · exact absurd (hfault.symm.trans htrial) (toReading_ne_incomplete fault)

theorem LeftOpen.completable_iff {text rest : List Char} {ts : List Token} {q : Char}
    (h : LeftOpen text ts q rest) (hviable : Viable (ts ++ [closedString q (rest ++ ['\n'])])) :
    (∃ more nodes, read (text ++ '\n' :: more) = .parsed nodes) ↔
      ∀ t ∈ ts ++ [closedString q (rest ++ ['\n'])], t.Reads := by
  constructor
  · rintro ⟨more, nodes, hparsed⟩ t ht
    obtain ⟨us, hrest, -, hreads⟩ := viable_reads_of_read hparsed (h.append ('\n' :: more))
    obtain ⟨inside, vs, rfl⟩ := h.goes_on hrest
    rcases List.mem_append.1 ht with ht | ht
    · exact hreads t (List.mem_append_left _ ht)
    · rw [List.mem_singleton.1 ht]
      have hstring := hreads _ (List.mem_append_right ts (List.mem_cons_self ..))
      exact reads_cut hstring (h.closed_line.wellFormed _ (by simp)) (.inr rfl)
  · intro hreads
    obtain ⟨more, nodes, hparsed⟩ := h.closed_line.exists_completion hviable hreads
    rw [List.append_assoc] at hparsed
    exact ⟨q :: '\n' :: more, nodes, hparsed⟩

theorem Splits.completable_iff {text : List Char} {ts : List Token} (h : Splits text ts [])
    (hviable : Viable ts) :
    (∃ more nodes, read (text ++ '\n' :: more) = .parsed nodes) ↔ ∀ t ∈ ts, t.Reads := by
  constructor
  · rintro ⟨more, nodes, hparsed⟩ t ht
    obtain ⟨vs, -, -, hreads⟩ := viable_reads_of_read hparsed (h.append_line more)
    exact hreads t (List.mem_append_left vs ht)
  · exact h.exists_completion hviable

theorem incomplete_completable {text : List Char} (h : read text = .incomplete)
    (hplace : ¬ EndsAstray text) :
    (∃ more nodes, read (text ++ '\n' :: more) = .parsed nodes) ↔
      ∀ t ∈ closedTokens text, t.Reads := by
  rcases cases_of_incomplete h with ⟨ts, hsplits, hviable⟩ | ⟨ts, q, rest, hopen, htrial⟩
  · rw [hsplits.closedTokens_eq]
    exact hsplits.completable_iff hviable
  · rw [hopen.closedTokens_eq]
    exact hopen.completable_iff (hopen.viable_of_trial htrial hplace)

end

def halfString : List Char :=
  ['A', 'd', 'd', '(', '1', ',', ' ', '"', 'i', 't']

theorem incomplete_completable_halfString :
    read halfString = .incomplete ∧ ¬ EndsAstray halfString ∧
      ∃ more nodes, read (halfString ++ '\n' :: more) = .parsed nodes := by
  have hread : read halfString = .incomplete := by decide +kernel
  have hplace : ¬ EndsAstray halfString := fun h => absurd h.getLast? (by decide)
  refine ⟨hread, hplace, (incomplete_completable hread hplace).2 ?_⟩
  have htokens : closedTokens halfString =
      [.name ['A', 'd', 'd'], .mark .openCall, .number ['1'], .mark .comma,
        .string ['"', 'i', 't', '\n', '"']] := by decide +kernel
  have hstring : stringValue ['"', 'i', 't', '\n', '"'] = .ok (String.ofList ['i', 't', '\n']) := by
    decide +kernel
  have hwf := wellFormed_closedTokens hread
  rw [htokens] at hwf ⊢
  have hone : DenotesNumber ['1'] (.int 1) := (numberValue_eq_ok_iff (hwf _ (by simp))).1 rfl
  have htext := (stringValue_eq_ok_iff (hwf _ (by simp))).1 hstring
  simp only [List.forall_mem_cons, Token.Reads, true_and]
  exact ⟨⟨.int 1, hone⟩, ⟨_, htext⟩, by simp⟩

def brokenEscape : List Char :=
  ['A', 'd', 'd', '(', '"', '\\', 'x', 'Z', 'Z', '"', ',']

-- Literals are read only once the statements are whole, so the text counts as unfinished.
theorem brokenEscape_never_parsed :
    read brokenEscape = .incomplete ∧
      ∀ more nodes, read (brokenEscape ++ '\n' :: more) ≠ .parsed nodes := by
  have hread : read brokenEscape = .incomplete := by decide +kernel
  have hscan : scan brokenEscape = ⟨[(0, .name ['A', 'd', 'd']), (3, .mark .openCall),
      (4, .string ['"', '\\', 'x', 'Z', 'Z', '"']), (10, .mark .comma)], .finished⟩ := by
    decide +kernel
  refine ⟨hread, fun more nodes hparsed => ?_⟩
  obtain ⟨vs, -, -, hreads⟩ :=
    viable_reads_of_read hparsed ((splits_of_scan hscan).append_line more)
  obtain ⟨s, hs⟩ := hreads (.string ['"', '\\', 'x', 'Z', 'Z', '"']) (by simp)
  have hfails : stringValue ['"', '\\', 'x', 'Z', 'Z', '"'] =
      .error (.string ['"', '\\', 'x', 'Z', 'Z', '"']
        (.escape 0 1 "truncated \\xXX escape")) := by decide +kernel
  cases hfails.symm.trans hs.stringValue_eq

end QueryShell.Statement
