import QueryShell.Proofs.Statement.Splitting

namespace QueryShell.Statement

structure Blocked (rest : List Char) : Prop where
  nonempty : rest ≠ []
  not_ignored : ignored false rest = 0
  no_token : token? rest = none

theorem scanFrom_finished {offset : Nat} {cs : List Char}
    (h : cs.drop (ignored false cs) = []) : scanFrom offset cs = ⟨[], .finished⟩ := by
  rw [scanFrom]
  split
  · rfl
  · next heq => rw [h] at heq; cases heq

theorem scanFrom_stuck {offset : Nat} {cs rest : List Char} {c : Char}
    (h : cs.drop (ignored false cs) = c :: rest) (ht : token? (c :: rest) = none) :
    scanFrom offset cs = ⟨[], .stuck (offset + ignored false cs) c⟩ := by
  rw [scanFrom]
  split
  · next heq => rw [h] at heq; cases heq
  · next heq =>
      rw [h] at heq
      cases heq
      split
      · rfl
      · next hsome => rw [ht] at hsome; cases hsome

theorem scanFrom_token {offset : Nat} {cs rest : List Char} {t : Token}
    (h : cs.drop (ignored false cs) = rest) (ht : token? rest = some t) :
    scanFrom offset cs =
      ⟨(offset + ignored false cs, t) ::
          (scanFrom (offset + ignored false cs + t.text.length) (rest.drop t.text.length)).tokens,
        (scanFrom (offset + ignored false cs + t.text.length)
          (rest.drop t.text.length)).stop⟩ := by
  rw [scanFrom]
  split
  · next heq =>
      rw [h] at heq
      rw [heq] at ht
      cases ht
  · next heq =>
      rw [h] at heq
      rw [← heq]
      split
      · next hnone => rw [ht] at hnone; cases hnone
      · next hsome =>
          rw [ht] at hsome
          cases hsome
          rfl

theorem scanFrom_skip {cs : List Char} (skipped : List Char) (offset : Nat)
    (h : ignored false (skipped ++ cs) = ignored false cs + skipped.length) :
    scanFrom offset (skipped ++ cs) = scanFrom (offset + skipped.length) cs := by
  have hdrop : (skipped ++ cs).drop (ignored false (skipped ++ cs)) =
      cs.drop (ignored false cs) := by
    rw [h, Nat.add_comm, ← List.drop_drop, List.drop_left]
  have hplace : offset + ignored false (skipped ++ cs) =
      offset + skipped.length + ignored false cs := by omega
  cases hrest : cs.drop (ignored false cs) with
  | nil => rw [scanFrom_finished hrest, scanFrom_finished (hdrop.trans hrest)]
  | cons c rest =>
      cases ht : token? (c :: rest) with
      | none => rw [scanFrom_stuck hrest ht, scanFrom_stuck (hdrop.trans hrest) ht, hplace]
      | some t => rw [scanFrom_token hrest ht, scanFrom_token (hdrop.trans hrest) ht, hplace]

theorem Blocked.scanFrom_eq {c : Char} {rest : List Char} (h : Blocked (c :: rest))
    (offset : Nat) : scanFrom offset (c :: rest) = ⟨[], .stuck offset c⟩ := by
  have hdrop : (c :: rest).drop (ignored false (c :: rest)) = c :: rest := by
    rw [h.not_ignored, List.drop_zero]
  rw [scanFrom_stuck hdrop h.no_token, h.not_ignored, Nat.add_zero]

theorem comment_text (cs : List Char) : ∃ body text, cs = body ++ text ∧ '\n' ∉ body ∧
    ∀ c ∈ text.head?, c = '\n' := by
  refine ⟨cs.takeWhile (· != '\n'), cs.dropWhile (· != '\n'), ?_, ?_, ?_⟩
  · exact List.takeWhile_append_dropWhile.symm
  · intro h
    have hne := List.mem_takeWhile_imp h
    exact absurd hne (by decide)
  · intro c hc
    have hhead := List.head?_dropWhile_not (· != '\n') cs
    rw [hc] at hhead
    simpa using hhead

theorem ignored_cases (cs : List Char) :
    ignored false cs = 0 ∨ (∃ c rest, cs = c :: rest ∧ isSpace c = true) ∨
      ∃ rest, cs = '/' :: '/' :: rest := by
  cases cs with
  | nil => exact .inl rfl
  | cons c cs =>
      cases hc : isSpace c with
      | true => exact .inr (.inl ⟨c, cs, rfl, hc⟩)
      | false =>
          by_cases hcomment : (c == '/' && cs.head? == some '/') = true
          · simp only [Bool.and_eq_true, beq_iff_eq] at hcomment
            obtain ⟨rfl, hhead⟩ := hcomment
            obtain ⟨rest, rfl⟩ := List.head?_eq_some_iff.1 hhead
            exact .inr (.inr ⟨rest, rfl⟩)
          · exact .inl (by simp only [ignored, hc, hcomment, Bool.false_eq_true, if_false])

theorem ignored_split (cs : List Char) : ∃ skipped rest, cs = skipped ++ rest ∧
    ignored false cs = skipped.length ∧ ignored false rest = 0 ∧ Splits cs [] rest := by
  rcases ignored_cases cs with h | ⟨c, cs, rfl, hc⟩ | ⟨cs, rfl⟩
  · exact ⟨[], cs, rfl, h, h, .done⟩
  · obtain ⟨skipped, rest, rfl, hlen, hrest, hsplits⟩ := ignored_split cs
    refine ⟨c :: skipped, rest, rfl, ?_, hrest, .space hc hsplits⟩
    rw [ignored_space hc, hlen, List.length_cons]
  · obtain ⟨body, text, rfl, hb, ht⟩ := comment_text cs
    obtain ⟨skipped, rest, htext, hlen, hrest, hsplits⟩ := ignored_split text
    refine ⟨'/' :: '/' :: (body ++ skipped), rest, by simp [htext], ?_, hrest,
      .comment hb ht hsplits⟩
    rw [ignored_comment hb ht, hlen]
    simp only [List.length_cons, List.length_append]
    omega
termination_by cs.length

inductive StopsAt (size : Nat) : Stop → List Char → Prop where
  | finished : StopsAt size .finished []
  | stuck {offset : Nat} {c : Char} {rest : List Char} : Blocked (c :: rest) →
      offset + (c :: rest).length = size → StopsAt size (.stuck offset c) (c :: rest)

theorem scanFrom_splits (offset : Nat) (cs : List Char) :
    ∃ rest, Splits cs ((scanFrom offset cs).tokens.map Prod.snd) rest ∧
      StopsAt (offset + cs.length) (scanFrom offset cs).stop rest := by
  obtain ⟨skipped, rest, hcs, hlen, hrest, hsplits⟩ := ignored_split cs
  have hdrop : cs.drop (ignored false cs) = rest := by rw [hlen, hcs, List.drop_left]
  have hsize : offset + ignored false cs + rest.length = offset + cs.length := by
    rw [hlen, hcs, List.length_append]
    omega
  cases rest with
  | nil =>
      rw [scanFrom_finished hdrop]
      exact ⟨[], hsplits, .finished⟩
  | cons c rest =>
      cases ht : token? (c :: rest) with
      | none =>
          rw [scanFrom_stuck hdrop ht]
          exact ⟨c :: rest, hsplits, .stuck ⟨by simp, hrest, ht⟩ hsize⟩
      | some t =>
          have hlex := lexeme_of_token? ht
          have hwidth : (c :: rest).length =
              t.text.length + ((c :: rest).drop t.text.length).length := by
            rw [← List.length_append, ← hlex.split]
          have hpos := text_length_pos_of_token? ht
          have hshorter : ((c :: rest).drop t.text.length).length < cs.length := by
            rw [hcs, List.length_append]
            omega
          obtain ⟨last, htail, hstop⟩ :=
            scanFrom_splits (offset + ignored false cs + t.text.length)
              ((c :: rest).drop t.text.length)
          rw [scanFrom_token hdrop ht]
          refine ⟨last, hsplits.trans (.token hlex htail), ?_⟩
          have hend : offset + ignored false cs + t.text.length +
              ((c :: rest).drop t.text.length).length = offset + cs.length := by omega
          rwa [hend] at hstop
termination_by cs.length
decreasing_by exact hshorter

theorem splits_of_scan {text : List Char} {tokens : List (Nat × Token)}
    (h : scan text = ⟨tokens, .finished⟩) : Splits text (tokens.map Prod.snd) [] := by
  obtain ⟨rest, hsplits, hstop⟩ := scanFrom_splits 0 text
  have hscan : scanFrom 0 text = ⟨tokens, .finished⟩ := h
  rw [hscan] at hsplits hstop
  cases hstop
  exact hsplits

theorem Splits.scanFrom_eq {text rest : List Char} {ts : List Token} (h : Splits text ts rest)
    (offset : Nat) : ∃ places place, places.map Prod.snd = ts ∧
      place + rest.length = offset + text.length ∧
      scanFrom offset text =
        ⟨places ++ (scanFrom place rest).tokens, (scanFrom place rest).stop⟩ := by
  induction h generalizing offset with
  | done => exact ⟨[], offset, rfl, rfl, rfl⟩
  | @space c text _ _ hc _ ih =>
      obtain ⟨places, place, hplaces, hplace, hscan⟩ := ih (offset + 1)
      refine ⟨places, place, hplaces, by rw [hplace, List.length_cons]; omega, ?_⟩
      have hskip := scanFrom_skip [c] offset (ignored_space hc text)
      exact hskip.trans hscan
  | @comment body text _ _ hb ht _ ih =>
      obtain ⟨places, place, hplaces, hplace, hscan⟩ := ih (offset + (body.length + 2))
      refine ⟨places, place, hplaces, ?_, ?_⟩
      · rw [hplace]
        simp only [List.length_cons, List.length_append]
        omega
      · have hskip := scanFrom_skip ('/' :: '/' :: body) offset (ignored_comment hb ht)
        exact hskip.trans hscan
  | @token text middle rest t ts hlex _ ih =>
      have ht := hlex.token?_eq
      have hzero : ignored false text = 0 := ignored_of_token? ht
      have hdrop : text.drop (ignored false text) = text := by rw [hzero, List.drop_zero]
      have hmiddle : text.drop t.text.length = middle := by rw [hlex.split, List.drop_left]
      obtain ⟨places, place, hplaces, hplace, hscan⟩ := ih (offset + t.text.length)
      refine ⟨(offset, t) :: places, place, by rw [List.map_cons, hplaces], ?_, ?_⟩
      · rw [hplace, hlex.split, List.length_append]
        omega
      · rw [scanFrom_token hdrop ht, hzero, Nat.add_zero, hmiddle, hscan]
        rfl

theorem scanFrom_nil (offset : Nat) : scanFrom offset [] = ⟨[], .finished⟩ :=
  scanFrom_finished rfl

theorem Splits.factor {text rest : List Char} {ts us : List Token} (h : Splits text ts [])
    (hstart : Splits text us rest) : ∃ vs, ts = us ++ vs ∧ Splits rest vs [] := by
  obtain ⟨all, _, hall, -, hscan⟩ := h.scanFrom_eq 0
  obtain ⟨first, place, hfirst, -, hscan'⟩ := hstart.scanFrom_eq 0
  rw [scanFrom_nil, List.append_nil] at hscan
  have heq := hscan.symm.trans hscan'
  obtain ⟨last, hlast, hstop⟩ := scanFrom_splits place rest
  have htokens : all = first ++ (scanFrom place rest).tokens := congrArg Scan.tokens heq
  have hfinished : Stop.finished = (scanFrom place rest).stop := congrArg Scan.stop heq
  rw [← hfinished] at hstop
  cases hstop
  exact ⟨_, by rw [← hall, htokens, List.map_append, hfirst], hlast⟩

theorem Blocked.not_splits {rest : List Char} {ts : List Token} (h : Blocked rest) :
    ¬ Splits rest ts [] := by
  intro hs
  obtain ⟨places, _, -, -, hscan⟩ := hs.scanFrom_eq 0
  cases rest with
  | nil => exact h.nonempty rfl
  | cons c rest =>
      rw [h.scanFrom_eq, scanFrom_nil] at hscan
      exact absurd (congrArg Scan.stop hscan) (by simp)

end QueryShell.Statement
