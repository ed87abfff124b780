import QueryShell.Proofs.Statement.Outlook
import QueryShell.Proofs.Text.Lines
import QueryShell.Statement.Reader

namespace QueryShell.Statement

def isBlankLine (line : List Char) : Bool :=
  match Text.trim line with
  | [] => true
  | '/' :: '/' :: _ => true
  | _ => false

theorem isBlank_eq (text : List Char) : isBlank text = (Text.lines text).all isBlankLine := rfl

theorem isBlankLine_cons_of_blank {c : Char} (h : Text.isBlank c = true) (line : List Char) :
    isBlankLine (c :: line) = isBlankLine line := by
  rw [isBlankLine, Text.trim_cons_of_blank h, isBlankLine]

theorem isBlankLine_cons_of_not_blank {c : Char} (h : Text.isBlank c = false) (hslash : c ≠ '/')
    (line : List Char) : isBlankLine (c :: line) = false := by
  obtain ⟨rest, hrest, -⟩ := Text.trim_cons_of_not_blank h line
  rw [isBlankLine, hrest]
  split
  · next heq => cases heq
  · next heq => exact absurd (List.cons.inj heq).1 hslash
  · rfl

theorem isBlank_append (a b : List Char) :
    isBlank (a ++ '\n' :: b) = (isBlank a && isBlank b) := by
  rw [isBlank_eq, Text.lines_append, List.all_append]
  rfl

theorem isBlank_cons_of_blank {c : Char} (h : Text.isBlank c = true) (text : List Char) :
    isBlank (c :: text) = isBlank text := by
  by_cases hc : c = '\n'
  · rw [hc]
    exact isBlank_append [] text
  · obtain ⟨line, more, hlines, hcons⟩ := Text.lines_cons_of_ne hc text
    rw [isBlank_eq, isBlank_eq, hlines, hcons, List.all_cons, List.all_cons,
      isBlankLine_cons_of_blank h]

theorem isBlank_append_of_blank {w : List Char} (h : ∀ c ∈ w, Text.isBlank c = true)
    (text : List Char) : isBlank (w ++ text) = isBlank text := by
  induction w with
  | nil => rfl
  | cons c w ih =>
      rw [List.cons_append, isBlank_cons_of_blank (h c (by simp))]
      exact ih fun d hd => h d (by simp [hd])

theorem isBlank_of_all {text : List Char} (h : ∀ c ∈ text, Text.isBlank c = true) :
    isBlank text = true := by
  induction text with
  | nil => rfl
  | cons c text ih =>
      rw [isBlank_cons_of_blank (h c (by simp))]
      exact ih fun d hd => h d (by simp [hd])

theorem blank_of_space {c : Char} (h : isSpace c = true) : Text.isBlank c = true := by
  simp only [isSpace, Bool.or_eq_true, beq_iff_eq] at h
  rcases h with (((rfl | rfl) | rfl) | rfl) | rfl <;> decide

theorem isBlank_cons_of_not_blank {c : Char} (h : Text.isBlank c = false) (hslash : c ≠ '/')
    (text : List Char) : isBlank (c :: text) = false := by
  have hc : c ≠ '\n' := by
    rintro rfl
    exact absurd h (by decide)
  obtain ⟨line, more, -, hcons⟩ := Text.lines_cons_of_ne hc text
  rw [isBlank_eq, hcons, List.all_cons, isBlankLine_cons_of_not_blank h hslash, Bool.false_and]

theorem isBlankLine_comment (body : List Char) : isBlankLine ('/' :: '/' :: body) = true := by
  have htrim : Text.trim ('/' :: '/' :: body) = '/' :: '/' :: Text.trimRight body := by
    rw [Text.trim, Text.trimLeft, List.dropWhile_cons_of_neg (by decide),
      Text.trimRight_cons_of_not_blank (by decide), Text.trimRight_cons_of_not_blank (by decide)]
  rw [isBlankLine, htrim]
  rfl

theorem isBlank_comment {body text : List Char} (hb : '\n' ∉ body)
    (ht : ∀ c ∈ text.head?, c = '\n') :
    isBlank ('/' :: '/' :: (body ++ text)) = isBlank text := by
  have hcomment : isBlank ('/' :: '/' :: body) = true := by
    rw [isBlank_eq, Text.lines_of_unbroken (by simpa using hb), List.all_cons,
      isBlankLine_comment]
    rfl
  cases text with
  | nil => rw [List.append_nil, hcomment]; rfl
  | cons c text =>
      obtain rfl : c = '\n' := ht c rfl
      have hparts := isBlank_append ('/' :: '/' :: body) text
      rw [List.cons_append, List.cons_append, hcomment, Bool.true_and] at hparts
      rw [hparts, isBlank_cons_of_blank rfl]

theorem token?_start {c : Char} {cs : List Char} {t : Token} (h : token? (c :: cs) = some t) :
    Text.isBlank c = false ∧ c ≠ '/' := by
  have hslash : c ≠ '/' := by
    rintro rfl
    rw [token?_slash] at h
    cases h
  refine ⟨?_, hslash⟩
  simp only [token?] at h
  split at h
  · next hname =>
      rcases nameStart_bounds hname with hc | hc | rfl | rfl
      · exact Text.not_blank_of_bounds (by omega)
      · exact Text.not_blank_of_bounds (by omega)
      · decide
      · decide
  · split at h
    · next hdigit => exact Text.not_blank_of_digit hdigit
    · split at h
      · next hminus => rw [hminus]; decide
      · split at h
        · next hquote => rcases quote_cases hquote with rfl | rfl <;> decide
        · obtain ⟨m, hm, -⟩ := Option.map_eq_some_iff.1 h
          rw [← Mark.eq_of_ofChar? hm]
          cases m <;> decide

theorem Splits.eq_nil_of_blank {text rest : List Char} {ts : List Token}
    (h : Splits text ts rest) (hblank : isBlank text = true) : ts = [] := by
  induction h with
  | done => rfl
  | space hc _ ih => exact ih (by rwa [isBlank_cons_of_blank (blank_of_space hc)] at hblank)
  | comment hb ht _ ih => exact ih (by rwa [isBlank_comment hb ht] at hblank)
  | @token text middle rest t ts hlex _ _ =>
      cases text with
      | nil => cases hlex.token?_eq
      | cons c text =>
          obtain ⟨hc, hslash⟩ := token?_start hlex.token?_eq
          rw [isBlank_cons_of_not_blank hc hslash] at hblank
          cases hblank

theorem Program.not_blank {text rest : List Char} {ts : List Token} {forms : List Form}
    (h : Program ts forms) (hsplits : Splits text ts rest) : isBlank text = false := by
  rw [Bool.eq_false_iff]
  intro hblank
  exact h.ne_nil (hsplits.eq_nil_of_blank hblank)

end QueryShell.Statement
