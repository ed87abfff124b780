import QueryShell.Proofs.Statement.Completion

namespace QueryShell.Statement

theorem Splits.blocked_unique {text x y : List Char} {ts us : List Token} {c d : Char}
    (hc : Splits text ts (c :: x)) (hx : Blocked (c :: x)) (hd : Splits text us (d :: y))
    (hy : Blocked (d :: y)) : c = d := by
  obtain ⟨_, place, -, -, hscan⟩ := hc.scanFrom_eq 0
  obtain ⟨_, place', -, -, hscan'⟩ := hd.scanFrom_eq 0
  rw [hx.scanFrom_eq] at hscan
  rw [hy.scanFrom_eq] at hscan'
  have hstop := congrArg Scan.stop (hscan.symm.trans hscan')
  exact (Stop.stuck.inj hstop).2

theorem blocked_of_blank {c : Char} (hc : Text.isBlank c = true) (hspace : isSpace c = false)
    (rest : List Char) : Blocked (c :: rest) := by
  refine ⟨by simp, ?_, ?_⟩
  · have hslash : c ≠ '/' := by
      rintro rfl
      exact absurd hc (by decide)
    simp [ignored, hspace, hslash]
  · cases htoken : token? (c :: rest) with
    | none => rfl
    | some t =>
        rw [(token?_start htoken).1] at hc
        cases hc

theorem not_quote_of_blank {c : Char} (hc : Text.isBlank c = true) : isQuote c = false := by
  rw [Bool.eq_false_iff]
  intro hquote
  rcases quote_cases hquote with rfl | rfl <;> exact absurd hc (by decide)

theorem blocked_point (rest : List Char) : Blocked ('.' :: rest) :=
  ⟨by simp, rfl, rfl⟩

theorem splits_of_point {w : List Char} (hw : ∀ c ∈ w, Text.isBlank c = true) (r : List Char) :
    ∃ c rest, Splits (w ++ '.' :: r) [] (c :: rest) ∧ Blocked (c :: rest) ∧
      isQuote c = false := by
  induction w with
  | nil => exact ⟨'.', r, .done, blocked_point r, rfl⟩
  | cons b w ih =>
      have hb : Text.isBlank b = true := hw b (by simp)
      cases hspace : isSpace b with
      | false =>
          exact ⟨b, w ++ '.' :: r, .done, blocked_of_blank hb hspace _, not_quote_of_blank hb⟩
      | true =>
          obtain ⟨c, rest, hsplits, hblocked, hquote⟩ := ih fun c hc => hw c (by simp [hc])
          exact ⟨c, rest, .space hspace hsplits, hblocked, hquote⟩

variable [CharacterNames]

theorem not_blank_of_incomplete {text : List Char} (h : read text = .incomplete) :
    isBlank text = false := by
  rw [Bool.eq_false_iff]
  intro hblank
  rw [read, if_pos hblank] at h
  cases h

theorem read_point_ne_incomplete {w : List Char} (hw : ∀ c ∈ w, Text.isBlank c = true)
    (r : List Char) : read (w ++ '.' :: r) ≠ .incomplete := by
  intro h
  obtain ⟨c, rest, hsplits, hblocked, hquote⟩ := splits_of_point hw r
  rcases cases_of_incomplete h with ⟨ts, hall, -⟩ | ⟨ts, q, rest', hopen, -⟩
  · obtain ⟨vs, -, hrest⟩ := hall.factor hsplits
    exact hblocked.not_splits hrest
  · obtain rfl := hsplits.blocked_unique hblocked hopen.splits hopen.blocked
    rw [hopen.quote] at hquote
    cases hquote

theorem read_point_ne_parsed {w : List Char} (hw : ∀ c ∈ w, Text.isBlank c = true)
    (r : List Char) (nodes : List Node) : read (w ++ '.' :: r) ≠ .parsed nodes := by
  intro h
  obtain ⟨c, rest, hsplits, hblocked, -⟩ := splits_of_point hw r
  obtain ⟨ts, forms, hall, -, -⟩ := written_of_read h
  obtain ⟨vs, -, hrest⟩ := hall.factor hsplits
  exact hblocked.not_splits hrest

theorem incomplete_opening {text : List Char} (h : read text = .incomplete) :
    ∃ w c r, text = w ++ c :: r ∧ (∀ b ∈ w, Text.isBlank b = true) ∧
      Text.isBlank c = false ∧ c ≠ '.' := by
  have hw : ∀ b ∈ text.takeWhile Text.isBlank, Text.isBlank b = true :=
    fun b hb => List.mem_takeWhile_imp hb
  have hcut : text.takeWhile Text.isBlank ++ text.dropWhile Text.isBlank = text :=
    List.takeWhile_append_dropWhile
  have hhead := List.head?_dropWhile_not Text.isBlank text
  generalize text.takeWhile Text.isBlank = w at hw hcut
  cases hrest : text.dropWhile Text.isBlank with
  | nil =>
      rw [hrest, List.append_nil] at hcut
      have hblank := isBlank_of_all (hcut ▸ hw)
      rw [not_blank_of_incomplete h] at hblank
      cases hblank
  | cons c r =>
      rw [hrest] at hcut hhead
      refine ⟨w, c, r, hcut.symm, hw, by simpa using hhead, ?_⟩
      rintro rfl
      exact read_point_ne_incomplete hw r (hcut ▸ h)

end QueryShell.Statement
