import QueryShell.Proofs.Statement.Opening

namespace QueryShell.Statement

inductive Stop.Alike : Stop → Stop → Prop where
  | finished : Alike .finished .finished
  | stuck {offset offset' : Nat} {c : Char} : Alike (.stuck offset c) (.stuck offset' c)

inductive Outline.Alike : Outline → Outline → Prop where
  | complete {forms : List Form} : Alike (.complete forms) (.complete forms)
  | unfinished : Alike .unfinished .unfinished
  | unexpectedToken {offset offset' : Nat} {t : Token} :
      Alike (.unexpectedToken offset t) (.unexpectedToken offset' t)
  | unexpectedChar {offset offset' : Nat} {c : Char} :
      Alike (.unexpectedChar offset c) (.unexpectedChar offset' c)

inductive Reading.Alike : Reading → Reading → Prop where
  | parsed {nodes : List Node} : Alike (.parsed nodes) (.parsed nodes)
  | incomplete : Alike .incomplete .incomplete
  | malformed {e e' : ShellError} : Alike (.malformed e) (.malformed e')
  | escaped {fault : Fault} : Alike (.escaped fault) (.escaped fault)

theorem Reading.Alike.refl (r : Reading) : r.Alike r := by
  cases r <;> constructor

theorem outlineFrom_alike {m : Machine} {tokens tokens' : List (Nat × Token)} {stop stop' : Stop}
    (htokens : tokens.map Prod.snd = tokens'.map Prod.snd) (hstop : stop.Alike stop') :
    (outlineFrom m tokens stop).Alike (outlineFrom m tokens' stop') := by
  induction tokens generalizing m tokens' with
  | nil =>
      obtain rfl := List.map_eq_nil_iff.1 htokens.symm
      cases hstop with
      | stuck => exact .unexpectedChar
      | finished =>
          simp only [outlineFrom]
          split
          · exact .complete
          · exact .unfinished
  | cons placed tokens ih =>
      obtain ⟨offset, t⟩ := placed
      obtain ⟨⟨offset', t'⟩, tokens', rfl, ht, hrest⟩ := List.map_eq_cons_iff.1 htokens.symm
      obtain rfl : t' = t := ht
      simp only [outlineFrom]
      cases m.step t' with
      | none => exact .unexpectedToken
      | some next => exact ih hrest.symm

theorem scanFrom_alike (offset offset' : Nat) (rest : List Char) :
    (scanFrom offset rest).tokens.map Prod.snd = (scanFrom offset' rest).tokens.map Prod.snd ∧
      (scanFrom offset rest).stop.Alike (scanFrom offset' rest).stop := by
  obtain ⟨last, hsplits, hstop⟩ := scanFrom_splits offset rest
  obtain ⟨places, place, hplaces, -, hscan⟩ := hsplits.scanFrom_eq offset'
  generalize (scanFrom offset rest).stop = stop at hstop ⊢
  cases hstop with
  | finished =>
      rw [scanFrom_nil, List.append_nil] at hscan
      rw [hscan]
      exact ⟨hplaces.symm, .finished⟩
  | stuck hblocked =>
      rw [hblocked.scanFrom_eq, List.append_nil] at hscan
      rw [hscan]
      exact ⟨hplaces.symm, .stuck⟩

variable {a b rest : List Char} {ts : List Token}

theorem outline_alike (h : Splits a ts rest) (h' : Splits b ts rest) :
    (outline a).Alike (outline b) := by
  obtain ⟨places, place, hplaces, -, hscan⟩ := h.scanFrom_eq 0
  obtain ⟨places', place', hplaces', -, hscan'⟩ := h'.scanFrom_eq 0
  obtain ⟨htokens, hstop⟩ := scanFrom_alike place place' rest
  rw [outline, outline, scan, scan, hscan, hscan']
  refine outlineFrom_alike ?_ hstop
  rw [List.map_append, List.map_append, hplaces, hplaces', htokens]

theorem isBlank_of_splits {text : List Char} (h : Splits text [] rest) :
    isBlank text = isBlank rest := by
  generalize hts : ([] : List Token) = ts at h
  induction h with
  | done => rfl
  | space hc _ ih => rw [isBlank_cons_of_blank (blank_of_space hc), ih hts]
  | comment hb ht _ ih => rw [isBlank_comment hb ht, ih hts]
  | token => cases hts

theorem isBlank_congr (h : Splits a ts rest) (h' : Splits b ts rest) : isBlank a = isBlank b := by
  cases ts with
  | nil => rw [isBlank_of_splits h, isBlank_of_splits h']
  | cons t ts =>
      have ha : isBlank a = false := by
        rw [Bool.eq_false_iff]
        intro hblank
        cases h.eq_nil_of_blank hblank
      have hb : isBlank b = false := by
        rw [Bool.eq_false_iff]
        intro hblank
        cases h'.eq_nil_of_blank hblank
      rw [ha, hb]

theorem exists_furthest (h : Splits a ts rest) (h' : Splits b ts rest) :
    ∃ us last, Splits a us last ∧ Splits b us last ∧ (last = [] ∨ Blocked last) := by
  obtain ⟨last, hrest, hstop⟩ := scanFrom_splits 0 rest
  refine ⟨_, last, h.trans hrest, h'.trans hrest, ?_⟩
  generalize (scanFrom 0 rest).stop = stop at hstop
  cases hstop with
  | finished => exact .inl rfl
  | stuck hblocked => exact .inr hblocked

variable [CharacterNames]

theorem classify_alike {out out' : Outline} {openString openString' : Char → Reading}
    (h : out.Alike out') (hopen : ∀ offset c, out = .unexpectedChar offset c →
      isQuote c = true → (openString c).Alike (openString' c)) :
    (classify a openString out).Alike (classify b openString' out') := by
  cases h with
  | complete => exact .refl _
  | unfinished => exact .incomplete
  | unexpectedToken => exact .malformed
  | @unexpectedChar offset offset' c =>
      simp only [classify]
      split
      · next hquote => exact hopen offset c rfl hquote
      · exact .malformed

theorem trial_alike {q : Char} (hq : isQuote q = true) (h : Splits a ts (q :: rest))
    (h' : Splits b ts (q :: rest)) : (trial a q).Alike (trial b q) := by
  have hsealed : Sealed (q :: rest) [q] := .inl ⟨q, rest, rfl, hq⟩
  have hclosed := outline_alike (h.append hsealed) (h'.append hsealed)
  have halike : (classify (a ++ [q]) (fun _ => .incomplete) (outline (a ++ [q]))).Alike
      (classify (b ++ [q]) (fun _ => .incomplete) (outline (b ++ [q]))) :=
    classify_alike hclosed fun _ _ _ _ => .incomplete
  simp only [trial]
  generalize classify (a ++ [q]) _ _ = r at halike ⊢
  generalize classify (b ++ [q]) _ _ = r' at halike ⊢
  cases halike <;> constructor

theorem read_alike (h : Splits a ts rest) (h' : Splits b ts rest) :
    (read a).Alike (read b) := by
  rw [read, read, isBlank_congr h h']
  split
  · exact .malformed
  · obtain ⟨us, last, ha, hb, hlast⟩ := exists_furthest h h'
    refine classify_alike (outline_alike h h') fun offset c hout hq => ?_
    have hlook := outline_outlook a
    rw [hout] at hlook
    cases hlook with
    | unexpectedChar hsplits _ hblocked =>
        rcases hlast with rfl | hlast
        · obtain ⟨vs, -, hrest⟩ := ha.factor hsplits
          exact absurd hrest hblocked.not_splits
        · cases last with
          | nil => exact absurd rfl hlast.nonempty
          | cons d last =>
              obtain rfl := hsplits.blocked_unique hblocked ha hlast
              exact trial_alike hq ha hb

end QueryShell.Statement
