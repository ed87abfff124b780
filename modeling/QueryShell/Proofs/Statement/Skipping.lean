import QueryShell.Proofs.Statement.Alike

namespace QueryShell.Statement

/-- The white space that some line begins with holds a character that the scanner does not skip. -/
def HasStray (text : List Char) : Prop :=
  ∃ line ∈ Text.lines text, ∃ c ∈ line.takeWhile Text.isBlank, isSpace c = false

instance (text : List Char) : Decidable (HasStray text) :=
  decidable_of_iff
    ((Text.lines text).any fun line => (line.takeWhile Text.isBlank).any (!isSpace ·))
    (by simp [HasStray])

theorem not_hasStray_nil : ¬ HasStray [] := by decide

theorem hasStray_append (a b : List Char) :
    HasStray (a ++ '\n' :: b) ↔ HasStray a ∨ HasStray b := by
  simp only [HasStray, Text.lines_append, List.mem_append, or_and_right, exists_or]

theorem hasStray_cons_of_blank {c : Char} (h : Text.isBlank c = true) (text : List Char) :
    HasStray (c :: text) ↔ isSpace c = false ∨ HasStray text := by
  by_cases hc : c = '\n'
  · rw [hc]
    have hbreak := hasStray_append [] text
    rw [List.nil_append] at hbreak
    simp [hbreak, not_hasStray_nil, isSpace]
  · obtain ⟨line, more, hlines, hcons⟩ := Text.lines_cons_of_ne hc text
    simp only [HasStray, hlines, hcons, List.mem_cons, exists_eq_or_imp, or_assoc,
      List.takeWhile_cons_of_pos h]

theorem hasStray_comment {body text : List Char} (hb : '\n' ∉ body)
    (ht : ∀ c ∈ text.head?, c = '\n') :
    HasStray ('/' :: '/' :: (body ++ text)) ↔ HasStray text := by
  have hcomment : ¬ HasStray ('/' :: '/' :: body) := by
    rintro ⟨line, hline, c, hc, -⟩
    rw [Text.lines_of_unbroken (by simpa using hb), List.mem_singleton] at hline
    rw [hline, List.takeWhile_cons_of_neg (by decide)] at hc
    cases hc
  cases text with
  | nil => simpa [not_hasStray_nil] using hcomment
  | cons c text =>
      obtain rfl : c = '\n' := ht c rfl
      have hparts := hasStray_append ('/' :: '/' :: body) text
      rw [List.cons_append, List.cons_append] at hparts
      have hbreak : HasStray ('\n' :: text) ↔ _ := hasStray_cons_of_blank rfl text
      simp [hparts, hbreak, hcomment, isSpace]

theorem hasStray_of_splits {text rest : List Char} (h : Splits text [] rest) :
    HasStray text ↔ HasStray rest := by
  generalize hts : ([] : List Token) = ts at h
  induction h with
  | done => rfl
  | space hc _ ih => simp [hasStray_cons_of_blank (blank_of_space hc), hc, ih hts]
  | comment hb ht _ ih => rw [hasStray_comment hb ht, ih hts]
  | token => cases hts

theorem comment_of_blank {text : List Char} (h : isBlank ('/' :: text) = true) :
    ∃ more, text = '/' :: more := by
  have hbreak : '/' ≠ '\n' := by decide
  have hslash : Text.isBlank '/' = false := by decide
  obtain ⟨line, lines, hlines, hcons⟩ := Text.lines_cons_of_ne hbreak text
  obtain ⟨rest, htrim, kept⟩ := Text.trim_cons_of_not_blank hslash line
  rw [isBlank_eq, hcons, List.all_cons, Bool.and_eq_true] at h
  have hline := h.1
  rw [isBlankLine, htrim] at hline
  split at hline
  · next heq => cases heq
  · next heq =>
      obtain ⟨more, rfl⟩ := (List.cons.inj heq).2 ▸ kept
      have htext : Text.joinWith ['\n'] (Text.lines text) = text := Text.joinWith_splitAt '\n' text
      rw [hlines] at htext
      cases lines with
      | nil => exact ⟨_, htext.symm⟩
      | cons next lines => exact ⟨_, htext.symm⟩
  · cases hline

theorem stray_of_blocked {c : Char} {rest : List Char} (hblank : isBlank (c :: rest) = true)
    (hblocked : Blocked (c :: rest)) : Text.isBlank c = true ∧ isSpace c = false := by
  have hspace : isSpace c = false := by
    rw [Bool.eq_false_iff]
    intro hc
    have hskips := hblocked.not_ignored
    rw [ignored_space hc] at hskips
    cases hskips
  refine ⟨?_, hspace⟩
  cases hc : Text.isBlank c with
  | true => rfl
  | false =>
      by_cases hslash : c = '/'
      · subst hslash
        obtain ⟨more, rfl⟩ := comment_of_blank hblank
        cases hblocked.not_ignored
      · rw [isBlank_cons_of_not_blank hc hslash] at hblank
        cases hblank

inductive Passage (text : List Char) : Prop where
  | whole : Splits text [] [] → ¬ HasStray text → Passage text
  | stray {c : Char} {rest : List Char} : Splits text [] (c :: rest) → Text.isBlank c = true →
      isSpace c = false → HasStray text → Passage text

theorem passage_of_blank {text : List Char} (h : isBlank text = true) : Passage text := by
  obtain ⟨rest, hsplits, hstop⟩ := scanFrom_splits 0 text
  rw [hsplits.eq_nil_of_blank h] at hsplits
  generalize (scanFrom 0 text).stop = stop at hstop
  cases hstop with
  | finished =>
      refine .whole hsplits ?_
      rw [hasStray_of_splits hsplits]
      exact not_hasStray_nil
  | stuck hblocked =>
      rw [isBlank_of_splits hsplits] at h
      obtain ⟨hc, hspace⟩ := stray_of_blocked h hblocked
      refine .stray hsplits hc hspace ?_
      rw [hasStray_of_splits hsplits, hasStray_cons_of_blank hc]
      exact .inl hspace

theorem scan_nil_iff {text : List Char} : scan text = ⟨[], .finished⟩ ↔ Splits text [] [] := by
  constructor
  · exact splits_of_scan
  · intro h
    obtain ⟨places, place, hplaces, -, hscan⟩ := h.scanFrom_eq 0
    rw [scanFrom_nil, List.append_nil, List.map_eq_nil_iff.1 hplaces] at hscan
    exact hscan

theorem skipped_iff {text : List Char} :
    Splits text [] [] ↔ isBlank text = true ∧ ¬ HasStray text := by
  constructor
  · intro h
    refine ⟨isBlank_of_splits h, ?_⟩
    rw [hasStray_of_splits h]
    exact not_hasStray_nil
  · rintro ⟨hblank, hstray⟩
    cases passage_of_blank hblank with
    | whole hsplits => exact hsplits
    | stray _ _ _ h => exact absurd h hstray

section

variable [CharacterNames]

structure PassedOver (gap : List Char) : Prop where
  before : ∀ text, (read (gap ++ '\n' :: text)).Alike (read text)
  between : ∀ front text ts, Splits front ts [] →
    (read (front ++ '\n' :: (gap ++ '\n' :: text))).Alike (read (front ++ '\n' :: text))

theorem passedOver_of_skipped {gap : List Char} (h : Splits gap [] []) : PassedOver gap := by
  have hgap (text : List Char) : Splits (gap ++ '\n' :: text) [] text :=
    (h.append_line text).trans (.space rfl .done)
  refine ⟨fun text => read_alike (hgap text) .done, fun front text ts hfront => ?_⟩
  have hwith := (hfront.append_line (gap ++ '\n' :: text)).trans (.space rfl (hgap text))
  have hwithout := (hfront.append_line text).trans (.space rfl .done)
  exact read_alike hwith hwithout

theorem not_passedOver_of_stray {gap rest : List Char} {c : Char}
    (h : Splits gap [] (c :: rest)) (hc : Text.isBlank c = true) (hspace : isSpace c = false) :
    ¬ PassedOver gap := by
  intro hpassed
  have hname : Splits ['x'] [.name ['x']] [] :=
    .token (lexeme_of_token?_split (by decide) rfl) .done
  obtain ⟨nodes, hnodes⟩ := read_eq_parsed_of_reads hname (.last .name) fun t ht => by
    rw [List.mem_singleton.1 ht]
    exact trivial
  have halike := hpassed.before ['x']
  rw [hnodes] at halike
  generalize hread : read (gap ++ '\n' :: ['x']) = reading at halike
  cases halike
  obtain ⟨ts, forms, hall, -, -⟩ := written_of_read hread
  obtain ⟨vs, -, hrest⟩ := hall.factor (h.append_line ['x'])
  exact (blocked_of_blank hc hspace _).not_splits hrest

theorem blank_skipped_iff (text : List Char) :
    ((isBlank text = true ↔ scan text = ⟨[], .finished⟩) ↔
        ¬ (isBlank text = true ∧ HasStray text)) ∧
      (isBlank text = true → (PassedOver text ↔ ¬ HasStray text)) ∧
      (isBlank text = false → scan text ≠ ⟨[], .finished⟩) := by
  rw [scan_nil_iff]
  refine ⟨?_, fun hblank => ?_, fun hblank hscan => ?_⟩
  · rw [skipped_iff, iff_self_and, not_and]
  · cases passage_of_blank hblank with
    | whole hsplits hstray => exact iff_of_true (passedOver_of_skipped hsplits) hstray
    | stray hsplits hc hspace hstray =>
        exact iff_of_false (not_passedOver_of_stray hsplits hc hspace) (not_not_intro hstray)
  · rw [isBlank_of_splits (scan_nil_iff.1 hscan)] at hblank
    cases hblank

end

theorem blank_skipped_iff_strayInComment :
    isBlank ['\r', ' ', '/', '/', '\u00a0'] = true ∧
      scan ['\r', ' ', '/', '/', '\u00a0'] = ⟨[], .finished⟩ ∧
      PassedOver ['\r', ' ', '/', '/', '\u00a0'] := by
  have hblank : isBlank ['\r', ' ', '/', '/', '\u00a0'] = true := by decide
  have hclean : ¬ HasStray ['\r', ' ', '/', '/', '\u00a0'] := by decide
  obtain ⟨hagrees, hpassed, -⟩ := blank_skipped_iff ['\r', ' ', '/', '/', '\u00a0']
  exact ⟨hblank, (hagrees.2 fun h => hclean h.2).1 hblank, (hpassed hblank).2 hclean⟩

theorem noBreakSpace_not_skipped :
    isBlank ['\u00a0'] = true ∧ scan ['\u00a0'] = ⟨[], .stuck 0 '\u00a0'⟩ ∧
      ¬ (isBlank ['\u00a0'] = true ↔ scan ['\u00a0'] = ⟨[], .finished⟩) ∧
      ¬ PassedOver ['\u00a0'] := by
  have hblank : isBlank ['\u00a0'] = true := by decide
  have hstray : Text.isBlank '\u00a0' = true ∧ isSpace '\u00a0' = false := by decide
  have hscan : scan ['\u00a0'] = ⟨[], .stuck 0 '\u00a0'⟩ :=
    (blocked_of_blank hstray.1 hstray.2 []).scanFrom_eq 0
  refine ⟨hblank, hscan, fun h => ?_, not_passedOver_of_stray .done hstray.1 hstray.2⟩
  have hfinished := h.1 hblank
  rw [hscan] at hfinished
  cases hfinished

end QueryShell.Statement
