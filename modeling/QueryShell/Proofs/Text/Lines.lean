import QueryShell.Text.Blank

namespace QueryShell.Text

theorem splitAt_cons_of_ne {sep c : Char} (hne : c ≠ sep) (cs : List Char) :
    ∃ piece pieces, splitAt sep cs = piece :: pieces ∧
      splitAt sep (c :: cs) = (c :: piece) :: pieces := by
  cases hs : splitAt sep cs with
  | nil => exact absurd hs (splitAt_ne_nil sep cs)
  | cons piece pieces =>
      refine ⟨piece, pieces, rfl, ?_⟩
      simp only [splitAt, if_neg hne, hs]

theorem splitAt_append (sep : Char) (a b : List Char) :
    splitAt sep (a ++ sep :: b) = splitAt sep a ++ splitAt sep b := by
  induction a with
  | nil => simp [splitAt]
  | cons c a ih =>
      by_cases hc : c = sep
      · simp [splitAt, hc, ih]
      · obtain ⟨piece, pieces, hcut, hcons⟩ := splitAt_cons_of_ne hc a
        rw [hcons, List.cons_append, splitAt, if_neg hc, ih, hcut]
        rfl

theorem lines_append (a b : List Char) : lines (a ++ '\n' :: b) = lines a ++ lines b :=
  splitAt_append '\n' a b

theorem lines_cons_of_ne {c : Char} (hne : c ≠ '\n') (cs : List Char) :
    ∃ line more, lines cs = line :: more ∧ lines (c :: cs) = (c :: line) :: more :=
  splitAt_cons_of_ne hne cs

theorem lines_of_unbroken {cs : List Char} (h : '\n' ∉ cs) : lines cs = [cs] := by
  induction cs with
  | nil => rfl
  | cons c cs ih =>
      obtain ⟨hc, hcs⟩ : '\n' ≠ c ∧ '\n' ∉ cs := by simpa using h
      obtain ⟨line, more, hlines, hcons⟩ := lines_cons_of_ne hc.symm cs
      have hrest : line :: more = [cs] := hlines.symm.trans (ih hcs)
      rw [hcons, (List.cons.inj hrest).1, (List.cons.inj hrest).2]

theorem trim_cons_of_blank {c : Char} (h : isBlank c = true) (cs : List Char) :
    trim (c :: cs) = trim cs := by
  simp [trim, trimLeft, h]

theorem trim_append_of_blank {w : List Char} (h : ∀ c ∈ w, isBlank c = true)
    (cs : List Char) : trim (w ++ cs) = trim cs := by
  induction w with
  | nil => rfl
  | cons c w ih =>
      rw [List.cons_append, trim_cons_of_blank (h c (by simp))]
      exact ih fun d hd => h d (by simp [hd])

theorem trimRight_cons_of_not_blank {c : Char} (h : isBlank c = false) (cs : List Char) :
    trimRight (c :: cs) = c :: trimRight cs := by
  have hright : (c :: cs).reverse.dropWhile isBlank = cs.reverse.dropWhile isBlank ++ [c] := by
    rw [List.reverse_cons, List.dropWhile_append]
    split
    · next hnil =>
        have hempty : cs.reverse.dropWhile isBlank = [] := List.isEmpty_iff.1 hnil
        simp [hempty, h]
    · rfl
  rw [trimRight, hright, List.reverse_append]
  rfl

theorem trim_cons_of_not_blank {c : Char} (h : isBlank c = false) (cs : List Char) :
    ∃ rest, trim (c :: cs) = c :: rest ∧ rest <+: cs := by
  have hleft : trimLeft (c :: cs) = c :: cs := by simp [trimLeft, h]
  refine ⟨trimRight cs, ?_, ?_⟩
  · rw [trim, hleft, trimRight_cons_of_not_blank h]
  · have hsuffix := List.dropWhile_suffix (l := cs.reverse) isBlank
    rw [← List.reverse_prefix, List.reverse_reverse] at hsuffix
    exact hsuffix

theorem exists_of_trim {cs rest : List Char} {c : Char} (h : trim cs = c :: rest) :
    ∃ w r, cs = w ++ c :: r ∧ ∀ b ∈ w, isBlank b = true := by
  have hcut : cs.takeWhile isBlank ++ cs.dropWhile isBlank = cs :=
    List.takeWhile_append_dropWhile
  have hkept : trim cs <+: cs.dropWhile isBlank := by
    have hsuffix := List.dropWhile_suffix (l := (cs.dropWhile isBlank).reverse) isBlank
    rwa [← List.reverse_prefix, List.reverse_reverse] at hsuffix
  obtain ⟨last, hlast⟩ := hkept
  rw [h, List.cons_append] at hlast
  refine ⟨cs.takeWhile isBlank, rest ++ last, ?_,
    fun b hb => List.all_eq_true.1 List.all_takeWhile b hb⟩
  rw [hlast, hcut]

end QueryShell.Text
