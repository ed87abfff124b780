import QueryShell.Value.Dictionary

namespace QueryShell.Value

variable {κ α : Type} [DecidableEq κ] {key : κ} {value : α}
  {pairs : List (κ × α)}

def textKeyed (pairs : List (Str × Value)) : List (Value × Value) :=
  pairs.map fun p => (.str p.1, p.2)

theorem keys_putText_of_mem (h : key ∈ pairs.map Prod.fst) :
    (putText pairs key value).map Prod.fst = pairs.map Prod.fst := by
  induction pairs with
  | nil => simp at h
  | cons p pairs ih =>
      by_cases hk : p.1 = key
      · simp [putText, hk]
      · have hlater : key ∈ pairs.map Prod.fst := by
          rcases List.mem_cons.1 h with heq | hmem
          · exact absurd heq.symm hk
          · exact hmem
        simp only [putText, if_neg hk, List.map_cons, ih hlater]

theorem putText_of_not_mem (h : key ∉ pairs.map Prod.fst) :
    putText pairs key value = pairs ++ [(key, value)] := by
  induction pairs with
  | nil => rfl
  | cons p pairs ih =>
      simp only [List.map_cons, List.mem_cons, not_or] at h
      rw [putText, if_neg fun heq => h.1 heq.symm, ih h.2, List.cons_append]

theorem lookup_putText (pairs : List (κ × α)) (key : κ) (value : α) (k : κ) :
    (putText pairs key value).lookup k = if k = key then some value else pairs.lookup k := by
  induction pairs with
  | nil =>
      rw [putText, List.lookup_cons]
      by_cases hk : k = key
      · rw [hk, beq_self_eq_true, if_pos rfl]
      · rw [beq_false_of_ne hk, if_neg hk]
  | cons p pairs ih =>
      obtain ⟨key', old⟩ := p
      by_cases hk : k = key'
      · subst hk
        by_cases hkey : k = key
        · simp [putText, hkey]
        · simp [putText, hkey]
      · by_cases hkey : key' = key
        · have hne : k ≠ key := fun heq => hk (heq.trans hkey.symm)
          rw [putText, if_pos hkey, List.lookup_cons, List.lookup_cons, beq_false_of_ne hk,
            if_neg hne]
        · rw [putText, if_neg hkey, List.lookup_cons, List.lookup_cons, beq_false_of_ne hk, ih]

theorem lookup_map {β : Type} (f : α → β) (pairs : List (κ × α)) (k : κ) :
    (pairs.map fun p => (p.1, f p.2)).lookup k = (pairs.lookup k).map f := by
  induction pairs with
  | nil => rfl
  | cons p pairs ih =>
      obtain ⟨key, value⟩ := p
      rw [List.map_cons, List.lookup_cons, List.lookup_cons]
      cases k == key with
      | true => rfl
      | false => exact ih

theorem lookup_foldl_putText (pairs entries : List (κ × α)) (k : κ) :
    (entries.foldl (fun acc e => putText acc e.1 e.2) pairs).lookup k =
      (entries.reverse.lookup k).or (pairs.lookup k) := by
  induction entries generalizing pairs with
  | nil => rfl
  | cons e entries ih =>
      obtain ⟨key, value⟩ := e
      rw [List.foldl_cons, ih, lookup_putText, List.reverse_cons, List.lookup_append,
        Option.or_assoc, List.lookup_cons]
      by_cases hk : k = key
      · rw [if_pos hk, hk, beq_self_eq_true, Option.some_or]
      · rw [if_neg hk, beq_false_of_ne hk, List.lookup_nil, Option.none_or]

theorem nodup_putText (h : (pairs.map Prod.fst).Nodup) :
    ((putText pairs key value).map Prod.fst).Nodup := by
  by_cases hmem : key ∈ pairs.map Prod.fst
  · rwa [keys_putText_of_mem hmem]
  · rw [putText_of_not_mem hmem, List.map_append, List.nodup_append]
    refine ⟨h, by simp, ?_⟩
    rintro k hk l hl rfl
    simp only [List.map_cons, List.map_nil, List.mem_singleton] at hl
    exact hmem (hl ▸ hk)

theorem mem_putText {p : κ × α} (h : p ∈ putText pairs key value) :
    p ∈ pairs ∨ p = (key, value) := by
  induction pairs with
  | nil => exact .inr (by simpa [putText] using h)
  | cons q pairs ih =>
      rw [putText] at h
      split at h
      · next hk =>
          rcases List.mem_cons.1 h with rfl | hmem
          · exact .inr (by rw [hk])
          · exact .inl (List.mem_cons_of_mem _ hmem)
      · rcases List.mem_cons.1 h with rfl | hmem
        · exact .inl (List.mem_cons_self ..)
        · rcases ih hmem with hold | hnew
          · exact .inl (List.mem_cons_of_mem _ hold)
          · exact .inr hnew

theorem foldl_putText_keeps {P : Value → Prop} {entries : List (Str × Value)}
    (pairs : List (Str × Value)) (hkeys : (pairs.map Prod.fst).Nodup)
    (hpairs : ∀ p ∈ pairs, P p.2) (hentries : ∀ e ∈ entries, P e.2) :
    ((entries.foldl (fun acc e => putText acc e.1 e.2) pairs).map Prod.fst).Nodup ∧
      ∀ p ∈ entries.foldl (fun acc e => putText acc e.1 e.2) pairs, P p.2 := by
  induction entries generalizing pairs with
  | nil => exact ⟨hkeys, hpairs⟩
  | cons e entries ih =>
      refine ih _ (nodup_putText hkeys) ?_ fun p hp => hentries p (by simp [hp])
      intro p hp
      rcases mem_putText hp with hold | rfl
      · exact hpairs p hold
      · exact hentries e (by simp)

theorem exists_ofTextPairs {P : Value → Prop} {entries : List (Str × Value)}
    (h : ∀ e ∈ entries, P e.2) :
    ∃ pairs, ofTextPairs entries = .dict (textKeyed pairs) ∧ (pairs.map Prod.fst).Nodup ∧
      ∀ p ∈ pairs, P p.2 :=
  ⟨_, rfl, foldl_putText_keeps [] .nil (by simp) h⟩

theorem foldl_putText_of_nodup {entries : List (Str × Value)} (pairs : List (Str × Value))
    (h : ((pairs ++ entries).map Prod.fst).Nodup) :
    entries.foldl (fun acc e => putText acc e.1 e.2) pairs = pairs ++ entries := by
  induction entries generalizing pairs with
  | nil => simp
  | cons e entries ih =>
      have hnew : e.1 ∉ pairs.map Prod.fst := by
        intro hmem
        rw [List.map_append, List.nodup_append] at h
        exact h.2.2 e.1 hmem e.1 (by simp) rfl
      rw [List.foldl_cons, putText_of_not_mem hnew, ih _ (by simpa using h), List.append_assoc]
      rfl

theorem ofTextPairs_of_nodup {entries : List (Str × Value)}
    (h : (entries.map Prod.fst).Nodup) : ofTextPairs entries = .dict (textKeyed entries) := by
  rw [ofTextPairs, foldl_putText_of_nodup [] h]
  rfl

structure LastOfEach (entries kept : List (κ × α)) : Prop where
  once : (kept.map Prod.fst).Nodup
  keys : kept.map Prod.fst = (entries.map Prod.fst).eraseDups
  last : ∀ p ∈ kept, entries.reverse.lookup p.1 = some p.2

theorem mem_putText_of_nodup (h : (pairs.map Prod.fst).Nodup) {p : κ × α}
    (hp : p ∈ putText pairs key value) : (p ∈ pairs ∧ p.1 ≠ key) ∨ p = (key, value) := by
  induction pairs with
  | nil => exact .inr (by simpa [putText] using hp)
  | cons q pairs ih =>
      obtain ⟨hq, hpairs⟩ := List.nodup_cons.1 h
      rw [putText] at hp
      split at hp
      · next hk =>
          rcases List.mem_cons.1 hp with rfl | hmem
          · exact .inr (by rw [hk])
          · refine .inl ⟨List.mem_cons_of_mem _ hmem, fun heq => hq ?_⟩
            rw [hk, ← heq]
            exact List.mem_map_of_mem hmem
      · next hk =>
          rcases List.mem_cons.1 hp with rfl | hmem
          · exact .inl ⟨List.mem_cons_self .., hk⟩
          · exact (ih hpairs hmem).imp_left fun hold => ⟨List.mem_cons_of_mem _ hold.1, hold.2⟩

theorem LastOfEach.snoc {entries kept : List (κ × α)} (h : LastOfEach entries kept)
    (e : κ × α) : LastOfEach (entries ++ [e]) (putText kept e.1 e.2) := by
  refine ⟨nodup_putText h.once, ?_, fun p hp => ?_⟩
  · have hmem : e.1 ∈ kept.map Prod.fst ↔ e.1 ∈ entries.map Prod.fst := by
      rw [h.keys, List.mem_eraseDups]
    rw [List.map_append, List.map_cons, List.map_nil, List.eraseDups_append, ← h.keys]
    by_cases hk : e.1 ∈ kept.map Prod.fst
    · have hold : [e.1].removeAll (entries.map Prod.fst) = [] := by
        simpa [List.removeAll] using hmem.1 hk
      rw [keys_putText_of_mem hk, hold, List.eraseDups_nil, List.append_nil]
    · have hnew : [e.1].removeAll (entries.map Prod.fst) = [e.1] := by
        simpa [List.removeAll] using mt hmem.2 hk
      rw [putText_of_not_mem hk, hnew, List.map_append]
      rfl
  · rw [List.reverse_append, List.reverse_singleton, List.singleton_append]
    rcases mem_putText_of_nodup h.once hp with ⟨hold, hne⟩ | rfl
    · rw [List.lookup_cons, beq_false_of_ne hne]
      exact h.last p hold
    · rw [List.lookup_cons, beq_self_eq_true]

theorem LastOfEach.foldl_putText {entries kept : List (κ × α)} (h : LastOfEach entries kept)
    (more : List (κ × α)) :
    LastOfEach (entries ++ more) (more.foldl (fun acc e => putText acc e.1 e.2) kept) := by
  induction more generalizing entries kept with
  | nil => rwa [List.append_nil]
  | cons e more ih =>
      rw [List.append_cons]
      exact ih (h.snoc e)

theorem lastOfEach_foldl (entries : List (κ × α)) :
    LastOfEach entries (entries.foldl (fun acc e => putText acc e.1 e.2) []) := by
  have hnone : LastOfEach ([] : List (κ × α)) [] := ⟨.nil, rfl, by simp⟩
  exact hnone.foldl_putText entries

theorem eq_of_lookup {entries kept kept' : List (κ × α)}
    (hkeys : kept.map Prod.fst = kept'.map Prod.fst)
    (h : ∀ p ∈ kept, entries.lookup p.1 = some p.2)
    (h' : ∀ p ∈ kept', entries.lookup p.1 = some p.2) : kept = kept' := by
  induction kept generalizing kept' with
  | nil => exact (List.map_eq_nil_iff.1 hkeys.symm).symm
  | cons p kept ih =>
      cases kept' with
      | nil => cases hkeys
      | cons q kept' =>
          obtain ⟨hkey, hrest⟩ := List.cons.inj hkeys
          have hvalue : some p.2 = some q.2 := by
            rw [← h p (by simp), ← h' q (by simp), hkey]
          rw [Prod.ext hkey (Option.some.inj hvalue),
            ih hrest (fun r hr => h r (by simp [hr])) fun r hr => h' r (by simp [hr])]

theorem LastOfEach.unique {entries kept kept' : List (κ × α)} (h : LastOfEach entries kept)
    (h' : LastOfEach entries kept') : kept = kept' :=
  eq_of_lookup (h.keys.trans h'.keys.symm) h.last h'.last

theorem LastOfEach.mem {entries kept : List (κ × α)} (h : LastOfEach entries kept)
    {p : κ × α} (hp : p ∈ kept) : p ∈ entries := by
  obtain ⟨before, after, heq, -⟩ := List.lookup_eq_some_iff.1 (h.last p hp)
  rw [← List.mem_reverse, heq]
  simp

end QueryShell.Value
