namespace QueryShell

theorem bind_ok {ε α β : Type} {x : Except ε α} {f : α → Except ε β} {b : β} :
    (x >>= f) = .ok b ↔ ∃ a, x = .ok a ∧ f a = .ok b := by
  cases x with
  | error e =>
      constructor
      · intro h; cases h
      · rintro ⟨a, h, -⟩; cases h
  | ok a =>
      constructor
      · intro h; exact ⟨a, rfl, h⟩
      · rintro ⟨a', h, hf⟩; cases h; exact hf

theorem bind_error {ε α β : Type} {x : Except ε α} {f : α → Except ε β} {e : ε} :
    (x >>= f) = .error e ↔ x = .error e ∨ ∃ a, x = .ok a ∧ f a = .error e := by
  cases x with
  | error e' =>
      constructor
      · intro h; cases h; exact .inl rfl
      · rintro (h | ⟨a, h, -⟩)
        · cases h; rfl
        · cases h
  | ok a =>
      constructor
      · intro h; exact .inr ⟨a, rfl, h⟩
      · rintro (h | ⟨a', h, hf⟩)
        · cases h
        · cases h; exact hf

theorem exists_ok_map {ε α β : Type} {x : Except ε α} {f : α → β} :
    (∃ b, (x >>= fun a => pure (f a)) = .ok b) ↔ ∃ a, x = .ok a := by
  constructor
  · rintro ⟨b, h⟩
    obtain ⟨a, ha, -⟩ := bind_ok.1 h
    exact ⟨a, ha⟩
  · rintro ⟨a, ha⟩
    exact ⟨f a, bind_ok.2 ⟨a, ha, rfl⟩⟩

theorem map_ok {ε α β : Type} {x : Except ε α} {f : α → β} {b : β} :
    x.map f = .ok b ↔ ∃ a, x = .ok a ∧ f a = b := by
  cases x with
  | error e => simp [Except.map]
  | ok a => simp [Except.map]

def Returns {ε α : Type} (x : Except ε α) : Prop :=
  ∃ a, x = .ok a

section

variable {ε α β γ : Type} {x : Except ε α} {y : Except ε β}

theorem returns_ok (a : α) : Returns (.ok a : Except ε α) :=
  ⟨a, rfl⟩

theorem not_returns_error (e : ε) : ¬ Returns (.error e : Except ε α) := by
  rintro ⟨a, h⟩
  cases h

theorem returns_map {f : α → β} : Returns (x >>= fun a => pure (f a)) ↔ Returns x :=
  exists_ok_map

theorem returns_bind {f : α → Except ε β} {p : Prop} (h : ∀ a, Returns (f a) ↔ p) :
    Returns (x >>= f) ↔ Returns x ∧ p := by
  constructor
  · rintro ⟨b, hb⟩
    obtain ⟨a, ha, hf⟩ := bind_ok.1 hb
    exact ⟨⟨a, ha⟩, (h a).1 ⟨b, hf⟩⟩
  · rintro ⟨⟨a, ha⟩, hp⟩
    obtain ⟨b, hf⟩ := (h a).2 hp
    exact ⟨b, bind_ok.2 ⟨a, ha, hf⟩⟩

theorem returns_map₂ {f : α → β → γ} :
    Returns (x >>= fun a => y >>= fun b => pure (f a b)) ↔ Returns x ∧ Returns y :=
  returns_bind fun _ => returns_map

end

theorem anyM_false {ε α : Type} {test : α → Except ε Bool} {items : List α} :
    items.anyM test = .ok false ↔ ∀ x ∈ items, test x = .ok false := by
  induction items with
  | nil => exact ⟨fun _ => List.forall_mem_nil _, fun _ => rfl⟩
  | cons x items ih =>
      rw [List.anyM, bind_ok, List.forall_mem_cons, ← ih]
      constructor
      · rintro ⟨found, hfound, hrest⟩
        cases found with
        | true => cases hrest
        | false => exact ⟨hfound, hrest⟩
      · rintro ⟨hx, hrest⟩
        exact ⟨false, hx, hrest⟩

theorem anyM_true {ε α : Type} {test : α → Except ε Bool} {items : List α} :
    items.anyM test = .ok true ↔ ∃ before item after, items = before ++ item :: after ∧
      (∀ x ∈ before, test x = .ok false) ∧ test item = .ok true := by
  induction items with
  | nil =>
      constructor
      · intro h; cases h
      · rintro ⟨before, item, after, h, -⟩
        cases before <;> cases h
  | cons x items ih =>
      rw [List.anyM, bind_ok]
      constructor
      · rintro ⟨found, hx, hrest⟩
        cases found with
        | true => exact ⟨[], x, items, rfl, List.forall_mem_nil _, hx⟩
        | false =>
            obtain ⟨before, item, after, rfl, hbefore, hitem⟩ := ih.1 hrest
            exact ⟨x :: before, item, after, rfl, List.forall_mem_cons.2 ⟨hx, hbefore⟩, hitem⟩
      · rintro ⟨before, item, after, hitems, hbefore, hitem⟩
        cases before with
        | nil =>
            cases hitems
            exact ⟨true, hitem, rfl⟩
        | cons y before =>
            cases hitems
            obtain ⟨hx, hbefore⟩ := List.forall_mem_cons.1 hbefore
            exact ⟨false, hx, ih.2 ⟨before, item, after, rfl, hbefore, hitem⟩⟩

theorem ok_of_mem_toOption {ε α : Type} {x : Except ε α} {a : α} (h : a ∈ x.toOption) :
    x = .ok a := by
  cases x with
  | error e => cases h
  | ok b =>
      cases h
      rfl

def error? {ε α : Type} : Except ε α → Option ε
  | .ok _ => none
  | .error e => some e

theorem error?_eq_some {ε α : Type} {x : Except ε α} {e : ε} :
    error? x = some e ↔ x = .error e := by
  cases x with
  | error e' => simp [error?]
  | ok a => simp [error?]

theorem error?_eq_none {ε α : Type} {x : Except ε α} : error? x = none ↔ ∃ a, x = .ok a := by
  cases x with
  | error e => simp [error?]
  | ok a => simp [error?]

theorem error?_bind {ε α β : Type} {x : Except ε α} {f : α → Except ε β} {e : Option ε}
    (h : ∀ a, error? (f a) = e) : error? (x >>= f) = (error? x).or e := by
  cases x with
  | error e' => rfl
  | ok a => exact h a

theorem error?_map {ε α β : Type} (x : Except ε α) (f : α → β) :
    error? (x >>= fun a => pure (f a)) = error? x := by
  cases x <;> rfl

def FailsOnly {ε α : Type} (P : ε → Prop) (x : Except ε α) : Prop :=
  ∀ e, x = .error e → P e

section

variable {ε α β : Type} {P : ε → Prop}

theorem FailsOnly.ok (a : α) : FailsOnly P (.ok a) := by
  intro e h
  cases h

theorem FailsOnly.error {e : ε} (h : P e) : FailsOnly P (.error e : Except ε α) := by
  intro e' h'
  cases h'
  exact h

theorem FailsOnly.bind {x : Except ε α} {f : α → Except ε β} (hx : FailsOnly P x)
    (hf : ∀ a, FailsOnly P (f a)) : FailsOnly P (x >>= f) := by
  cases x with
  | ok a => exact hf a
  | error e => exact .error (hx e rfl)

theorem FailsOnly.map {x : Except ε α} (hx : FailsOnly P x) (f : α → β) :
    FailsOnly P (x >>= fun a => pure (f a)) :=
  hx.bind fun a => .ok (f a)

theorem FailsOnly.mapError {δ : Type} {Q : δ → Prop} {x : Except ε α} (hx : FailsOnly P x)
    {g : ε → δ} (hg : ∀ e, P e → Q (g e)) : FailsOnly Q (x.mapError g) := by
  cases x with
  | ok a => exact .ok a
  | error e => exact .error (hg e (hx e rfl))

end

end QueryShell
