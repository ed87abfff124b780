import QueryShell.Proofs.Value.Shown

namespace QueryShell.Render

open Value (commaSeparated entryText isSeparator withCommas)

def separator? (p : CodePoint) : Option CodePoint :=
  if isSeparator p then some p else none

def outline (s : Str) : List (Option CodePoint) :=
  s.map separator?

theorem separator?_of_separator {p : CodePoint} (h : isSeparator p = true) :
    separator? p = some p :=
  if_pos h

theorem separator?_of_not {p : CodePoint} (h : isSeparator p = false) : separator? p = none :=
  if_neg (by simp [h])

@[simp]
theorem outline_append (s t : Str) : outline (s ++ t) = outline s ++ outline t := by
  simp [outline]

section

variable {a b s t : Str} {ss ts : List Str}

theorem append_inj_of_outline (h : outline a = outline b) (heq : a ++ s = b ++ t) :
    a = b ∧ s = t := by
  have hlength : a.length = b.length := by
    simpa [outline] using congrArg List.length h
  exact List.append_inj heq hlength

theorem eq_of_dropWhile (h : outline s = outline t)
    (hdrop : s.dropWhile isSeparator = t.dropWhile isSeparator) : s = t := by
  induction s generalizing t with
  | nil => exact (List.map_eq_nil_iff.1 h.symm).symm
  | cons p s ih =>
      cases t with
      | nil => cases h
      | cons q t =>
          obtain ⟨hfirst, hrest⟩ := List.cons.inj h
          cases hp : isSeparator p with
          | false =>
              have hq : isSeparator q = false := by
                cases hq : isSeparator q with
                | false => rfl
                | true =>
                    rw [separator?_of_not hp, separator?_of_separator hq] at hfirst
                    cases hfirst
              simpa [List.dropWhile_cons, hp, hq] using hdrop
          | true =>
              have hq : isSeparator q = true := by
                cases hq : isSeparator q with
                | true => rfl
                | false =>
                    rw [separator?_of_separator hp, separator?_of_not hq] at hfirst
                    cases hfirst
              rw [separator?_of_separator hp, separator?_of_separator hq] at hfirst
              simp only [List.dropWhile_cons, hp, hq, if_true] at hdrop
              rw [Option.some.inj hfirst, ih hrest hdrop]

theorem outline_dropWhile_eq (s : Str) :
    outline (s.dropWhile isSeparator) = (outline s).dropWhile Option.isSome := by
  induction s with
  | nil => rfl
  | cons p s ih =>
      cases hp : isSeparator p with
      | false =>
          rw [List.dropWhile_cons_of_neg (by simp [hp])]
          simp [outline, separator?_of_not hp]
      | true =>
          rw [List.dropWhile_cons_of_pos hp, ih]
          simp [outline, separator?_of_separator hp]

theorem outline_dropWhile (h : outline s = outline t) :
    outline (s.dropWhile isSeparator) = outline (t.dropWhile isSeparator) := by
  rw [outline_dropWhile_eq, outline_dropWhile_eq, h]

theorem outline_withCommas (us : List Str) :
    outline (withCommas us) =
      (us.map outline).flatMap fun o => some (.char ',') :: some (.char ' ') :: o := by
  induction us with
  | nil => rfl
  | cons u us ih =>
      rw [withCommas, List.flatMap_cons, ← withCommas, outline_append, ih]
      rfl

theorem outline_commaSeparated (h : ss.map outline = ts.map outline) :
    outline (commaSeparated ss) = outline (commaSeparated ts) := by
  have hdrop (us : List Str) : outline (commaSeparated us) = (outline (withCommas us)).drop 2 := by
    rw [Value.commaSeparated_eq]
    exact List.map_drop
  rw [hdrop, hdrop, outline_withCommas, outline_withCommas, h]

theorem withCommas_inj (h : ss.map outline = ts.map outline) (heq : withCommas ss = withCommas ts) :
    ss = ts := by
  induction ss generalizing ts with
  | nil => exact (List.map_eq_nil_iff.1 h.symm).symm
  | cons s ss ih =>
      cases ts with
      | nil => cases h
      | cons t ts =>
          obtain ⟨hfirst, hrest⟩ := List.cons.inj h
          simp only [withCommas, List.flatMap_cons, List.cons_append, List.cons.injEq,
            true_and] at heq ih
          have hlength : s.length = t.length := by
            simpa [outline] using congrArg List.length hfirst
          obtain ⟨hs, hmore⟩ := List.append_inj heq hlength
          rw [hs, ih hrest hmore]

theorem commaSeparated_inj (h : ss.map outline = ts.map outline)
    (heq : commaSeparated ss = commaSeparated ts) : ss = ts := by
  have hdrop : (withCommas ss).drop 2 = (withCommas ts).drop 2 := by
    rw [← Value.commaSeparated_eq, heq, Value.commaSeparated_eq]
  cases ss with
  | nil => exact (List.map_eq_nil_iff.1 h.symm).symm
  | cons s ss =>
      cases ts with
      | nil => cases h
      | cons t ts =>
          refine withCommas_inj h ?_
          exact congrArg (.char ',' :: .char ' ' :: ·) hdrop

end

inductive Respelled {α : Type} (alike : α → α → Prop) (changed : Prop) :
    Except Fault α → Except Fault α → Prop where
  | fault (f : Fault) : Respelled alike changed (.error f) (.error f)
  | result {a b : α} : alike a b → (a = b ↔ ¬ changed) → Respelled alike changed (.ok a) (.ok b)

section

variable {α β γ : Type} {r : α → α → Prop} {r' : β → β → Prop} {r'' : γ → γ → Prop} {P Q : Prop}
  {x x' : Except Fault α} {y y' : Except Fault β}

theorem Respelled.congr (h : Respelled r P x x') (hPQ : P ↔ Q) : Respelled r Q x x' := by
  cases h with
  | fault f => exact .fault f
  | result halike heq => exact .result halike (heq.trans (not_congr hPQ))

theorem Respelled.same {a : α} (ha : r a a) (hP : ¬ P) : Respelled r P (.ok a) (.ok a) :=
  .result ha (by simpa using hP)

theorem Respelled.unchanged (x : Except Fault α) (hr : ∀ a, r a a) (hP : ¬ P) :
    Respelled r P x x := by
  cases x with
  | error f => exact .fault f
  | ok a => exact .same (hr a) hP

theorem Respelled.throw (h : Respelled r P x x') (f : Fault) :
    Respelled r' Q (x >>= fun _ => .error f) (x' >>= fun _ => .error f) := by
  cases h <;> exact .fault _

theorem Respelled.map {f : α → β} (h : Respelled r P x x')
    (hf : ∀ {a b}, r a b → r' (f a) (f b) ∧ (f a = f b → a = b)) :
    Respelled r' P (x >>= fun a => pure (f a)) (x' >>= fun a => pure (f a)) := by
  cases h with
  | fault e => exact .fault e
  | result halike heq =>
      obtain ⟨hr, hinj⟩ := hf halike
      exact .result hr (Iff.trans ⟨hinj, congrArg f⟩ heq)

theorem Respelled.map₂ {f : α → β → γ} (hx : Respelled r P x x') (hy : Respelled r' Q y y')
    (hf : ∀ {a b c d}, r a b → r' c d →
      r'' (f a c) (f b d) ∧ (f a c = f b d → a = b ∧ c = d)) :
    Respelled r'' (P ∨ Q) (x >>= fun a => y >>= fun b => pure (f a b))
      (x' >>= fun a => y' >>= fun b => pure (f a b)) := by
  cases hx with
  | fault e => exact .fault e
  | result hab heq =>
      cases hy with
      | fault e => exact .fault e
      | result hcd heq' =>
          obtain ⟨hr, hinj⟩ := hf hab hcd
          refine .result hr (Iff.trans (Iff.intro hinj ?_) ((and_congr heq heq').trans not_or.symm))
          rintro ⟨rfl, rfl⟩
          rfl

end

def SameOutline (s t : Str) : Prop :=
  outline s = outline t

def SameOutlines (ss ts : List Str) : Prop :=
  ss.map outline = ts.map outline

section

variable {x y : Except Fault Str} {xs ys : Except Fault (List Str)} {P Q : Prop}

theorem Respelled.framed (h : Respelled SameOutline P x y) (before after : Str) :
    Respelled SameOutline P (x >>= fun s => pure (before ++ s ++ after))
      (y >>= fun s => pure (before ++ s ++ after)) := by
  refine h.map fun {s t} hst => ⟨?_, fun heq => ?_⟩
  · simp only [SameOutline, outline_append] at hst ⊢
    rw [hst]
  · exact List.append_cancel_left (List.append_cancel_right heq)

theorem Respelled.bracketed (h : Respelled SameOutlines P xs ys) (before after : Str) :
    Respelled SameOutline P (xs >>= fun ss => pure (before ++ commaSeparated ss ++ after))
      (ys >>= fun ss => pure (before ++ commaSeparated ss ++ after)) := by
  refine h.map fun {ss ts} hst => ⟨?_, fun heq => ?_⟩
  · simp only [SameOutline, outline_append]
    rw [outline_commaSeparated hst]
  · exact commaSeparated_inj hst
      (List.append_cancel_left (List.append_cancel_right heq))

theorem Respelled.cons (hx : Respelled SameOutline P x y) (hxs : Respelled SameOutlines Q xs ys) :
    Respelled SameOutlines (P ∨ Q) (x >>= fun s => xs >>= fun ss => pure (s :: ss))
      (y >>= fun s => ys >>= fun ss => pure (s :: ss)) := by
  refine hx.map₂ hxs fun {s t ss ts} hst hmore => ⟨?_, List.cons.inj⟩
  exact congrArg₂ List.cons hst hmore

theorem Respelled.consEntry (key : Except Fault Str) (hx : Respelled SameOutline P x y)
    (hxs : Respelled SameOutlines Q xs ys) :
    Respelled SameOutlines (P ∨ Q)
      (key >>= fun k => x >>= fun s => xs >>= fun ss => pure (entryText k s :: ss))
      (key >>= fun k => y >>= fun s => ys >>= fun ss => pure (entryText k s :: ss)) := by
  cases key with
  | error f => exact .fault f
  | ok k =>
      refine hx.map₂ hxs fun {s t ss ts} hst hmore => ⟨?_, fun heq => ?_⟩
      · refine congrArg₂ List.cons ?_ hmore
        simp only [SameOutline, entryText, outline_append] at hst ⊢
        rw [hst]
      · obtain ⟨hfirst, hrest⟩ := List.cons.inj heq
        exact ⟨List.append_cancel_left hfirst, hrest⟩

end

end QueryShell.Render
