import QueryShell.Proofs.Value.Shown

namespace QueryShell.Value

section

variable {k l v w : Value} {ps qs : List (Value × Value)}

theorem Number.equal_comm (m n : Number) : m.equal n = n.equal m := by
  cases m with
  | whole m =>
      cases n with
      | whole n => exact Bool.beq_comm
      | binary y => rfl
  | binary x =>
      cases n with
      | whole n => rfl
      | binary y =>
          rw [Bool.eq_iff_iff, Number.equal, Number.equal, Float.beq_iff_ne_nan_and_eq,
            Float.beq_iff_ne_nan_and_eq]
          grind

theorem equal_eq_matches {n : Number} (h : v.number? = some n) (w : Value) :
    equal v w = n.matches w := by
  cases v <;> cases h <;> rfl

theorem Number.matches_iff {n : Number} :
    n.matches w = true ↔ ∃ m, w.number? = some m ∧ n.equal m = true := by
  unfold Number.matches
  cases w.number? <;> simp

theorem sameKey_symm_of_number {n : Number} (hk : k.number? = some n) (h : sameKey k l = true) :
    sameKey l k = true := by
  rw [sameKey, Bool.and_eq_true, equal_eq_matches hk, Number.matches_iff] at h
  obtain ⟨⟨m, hl, hequal⟩, -⟩ := h
  have hhash : hashAlike l k = true := by
    cases l <;> cases hl <;> rfl
  rw [sameKey, hhash, Bool.and_true, equal_eq_matches hl, Number.matches_iff]
  exact ⟨n, hk, (Number.equal_comm m n).trans hequal⟩

theorem hashAlike_iff_eq (hps : Composed (.expr ps)) (hqs : Composed (.expr qs)) :
    hashAlike (.expr ps) (.expr qs) = true ↔ ps = qs := by
  obtain ⟨s, hs, -⟩ := hps.shown
  obtain ⟨t, ht, -⟩ := hqs.shown
  have htexts : hashAlike (.expr ps) (.expr qs) = (Str.ofChars s == Str.ofChars t) := by
    rw [hashAlike, shownAlike, hs, ht]
  rw [htexts, beq_iff_eq]
  constructor
  · intro hsame
    rw [← hsame] at ht
    injection hps.eq_of_inspect hqs hs ht
  · rintro rfl
    exact Except.ok.inj (hs.symm.trans ht)

theorem sameKey_symm (hk : Composed k) (hl : Composed l) (hhashable : k.checkHashable = .ok ())
    (h : sameKey k l = true) : sameKey l k = true := by
  cases hk with
  | null =>
      cases l with
      | null => exact h
      | _ => cases h
  | bool b => exact sameKey_symm_of_number rfl h
  | int n => exact sameKey_symm_of_number rfl h
  | float x => exact sameKey_symm_of_number rfl h
  | str s =>
      cases l with
      | str t =>
          have hst : s = t := by simpa [sameKey, equal, hashAlike] using h
          rwa [hst] at h ⊢
      | _ => cases h
  | bytes a =>
      cases l with
      | bytes b =>
          have hab : a = b := by simpa [sameKey, equal, hashAlike] using h
          rwa [hab] at h ⊢
      | _ => cases h
  | list _ => cases hhashable
  | dict _ _ _ => cases hhashable
  | expr hkeys hks hvs =>
      cases hl with
      | expr hkeys' hls hws =>
          have hhash := (Bool.and_eq_true_iff.1 h).2
          have heq := (hashAlike_iff_eq (.expr hkeys hks hvs) (.expr hkeys' hls hws)).1 hhash
          rwa [heq] at h ⊢
      | _ => cases h

theorem eachFound_iff :
    eachFound ps qs = true ↔
      ∀ p ∈ ps, ∃ q ∈ qs, sameKey p.1 q.1 = true ∧ equal p.2 q.2 = true := by
  induction ps with
  | nil => simp [eachFound]
  | cons p ps ih =>
      rw [eachFound, Bool.and_eq_true, ih, List.forall_mem_cons, List.any_eq_true]
      simp only [sameKey, Bool.and_eq_true]

theorem Keys.eq_of_sameKey (hkeys : Keys (qs.map Prod.fst)) (hqs : ∀ q ∈ qs, Composed q.1)
    {p q : Value × Value} (hp : p ∈ qs) (hq : q ∈ qs) (h : sameKey p.1 q.1 = true) : p = q := by
  have hsymm : Std.Symm fun p q : Value × Value =>
      ¬(sameKey p.1 q.1 = true ∧ sameKey q.1 p.1 = true) := ⟨fun _ _ h hback => h hback.symm⟩
  have hdistinct : qs.Pairwise fun p q => ¬(sameKey p.1 q.1 = true ∧ sameKey q.1 p.1 = true) :=
    (List.pairwise_map.1 hkeys.distinct).imp fun hne hboth => by simp [hne] at hboth
  by_contra hne
  have hhashable := hkeys.hashable p.1 (List.mem_map_of_mem hp)
  exact hdistinct.forall hp hq hne ⟨h, sameKey_symm (hqs p hp) (hqs q hq) hhashable h⟩

theorem keys_of_names (names : List Str) (h : names.Nodup) : Keys (names.map .str) where
  hashable := by simp [checkHashable]
  distinct := by
    rw [List.pairwise_map]
    exact h.imp fun hne => by simp [sameKey, equal, hne]

theorem equal_of_eachFound (h : eachFound ps qs = true) (hkeys : Keys (qs.map Prod.fst))
    (hqs : ∀ q ∈ qs, Composed q.1) {p q : Value × Value} (hp : p ∈ ps) (hq : q ∈ qs)
    (hpq : p.1 = q.1) : sameKey p.1 q.1 = true ∧ equal p.2 q.2 = true := by
  obtain ⟨q', hq', hsame, hequal⟩ := eachFound_iff.1 h p hp
  have hqq' : q = q' := hkeys.eq_of_sameKey hqs hq hq' (hpq ▸ hsame)
  rw [hqq']
  exact ⟨hsame, hequal⟩

end

def isNegative (x : Float) : Bool :=
  x.toBits.toNat / 2 ^ 63 == 1

mutual

inductive WrittenAlike : Value → Value → Prop where
  | null : WrittenAlike .null .null
  | bool (b c : Bool) : WrittenAlike (.bool b) (.bool c)
  | int (m n : Int) : WrittenAlike (.int m) (.int n)
  | float {x y : Float} : isNegative x = isNegative y → WrittenAlike (.float x) (.float y)
  | str (s t : Str) : WrittenAlike (.str s) (.str t)
  | bytes (a b : List UInt8) : WrittenAlike (.bytes a) (.bytes b)
  | list {vs ws : List Value} : AllWrittenAlike vs ws → WrittenAlike (.list vs) (.list ws)
  | dict {ps qs : List (Value × Value)} : InOrder ps qs → WrittenAlike (.dict ps) (.dict qs)
  | expr {ps qs : List (Value × Value)} : InOrder ps qs → WrittenAlike (.expr ps) (.expr qs)

inductive AllWrittenAlike : List Value → List Value → Prop where
  | nil : AllWrittenAlike [] []
  | cons {v w : Value} {vs ws : List Value} : WrittenAlike v w → AllWrittenAlike vs ws →
      AllWrittenAlike (v :: vs) (w :: ws)

inductive InOrder : List (Value × Value) → List (Value × Value) → Prop where
  | nil : InOrder [] []
  | cons {k l v w : Value} {ps qs : List (Value × Value)} : equal k l = true →
      WrittenAlike k l → WrittenAlike v w → InOrder ps qs → InOrder ((k, v) :: ps) ((l, w) :: qs)

end

section

variable {v : Value} {vs : List Value} {ps qs : List (Value × Value)}

theorem allWrittenAlike_self (h : ∀ v ∈ vs, WrittenAlike v v) : AllWrittenAlike vs vs := by
  induction vs with
  | nil => exact .nil
  | cons v vs ih =>
      rw [List.forall_mem_cons] at h
      exact .cons h.1 (ih h.2)

theorem inOrder_refl (h : ∀ p ∈ ps, equal p.1 p.1 = true ∧ WrittenAlike p.1 p.1 ∧
    WrittenAlike p.2 p.2) : InOrder ps ps := by
  induction ps with
  | nil => exact .nil
  | cons p ps ih =>
      rw [List.forall_mem_cons] at h
      exact .cons h.1.1 h.1.2.1 h.1.2.2 (ih h.2)

theorem Keys.inOrder_self (hkeys : Keys (ps.map Prod.fst)) (hks : ∀ p ∈ ps, Composed p.1)
    (hfound : eachFound ps ps = true)
    (ihkeys : ∀ p ∈ ps, equal p.1 p.1 = true → WrittenAlike p.1 p.1)
    (ihvalues : ∀ p ∈ ps, equal p.2 p.2 = true → WrittenAlike p.2 p.2) : InOrder ps ps := by
  refine inOrder_refl fun p hp => ?_
  obtain ⟨hsame, hvalue⟩ := equal_of_eachFound hfound hkeys hks hp hp rfl
  have hkey := (Bool.and_eq_true_iff.1 hsame).1
  exact ⟨hkey, ihkeys p hp hkey, ihvalues p hp hvalue⟩

theorem allEqual_self_iff : allEqual vs vs = true ↔ ∀ v ∈ vs, equal v v = true := by
  induction vs with
  | nil => simp [allEqual]
  | cons v vs ih => rw [allEqual, Bool.and_eq_true, ih, List.forall_mem_cons]

theorem Composed.writtenAlike_self (hv : Composed v) (h : equal v v = true) : WrittenAlike v v := by
  induction hv with
  | null => exact .null
  | bool b => exact .bool b b
  | int n => exact .int n n
  | float x => exact .float rfl
  | str s => exact .str s s
  | bytes data => exact .bytes data data
  | list _ ih =>
      exact .list (allWrittenAlike_self fun v hv => ih v hv (allEqual_self_iff.1 h v hv))
  | dict hkeys hks _ ihkeys ihvalues =>
      exact .dict (hkeys.inOrder_self hks (Bool.and_eq_true_iff.1 h).2 ihkeys ihvalues)
  | expr hkeys hks _ ihkeys ihvalues =>
      exact .expr (hkeys.inOrder_self hks (Bool.and_eq_true_iff.1 h).2 ihkeys ihvalues)

theorem float_eq_of_equal {x y : Float} (h : equal (.float x) (.float y) = true)
    (hsign : isNegative x = isNegative y) : x = y := by
  have hbeq : (x == y) = true := h
  rw [Float.beq_iff_ne_nan_and_eq] at hbeq
  obtain ⟨-, -, hxy | ⟨rfl, rfl⟩ | ⟨rfl, rfl⟩⟩ := hbeq
  · exact hxy
  · exact absurd hsign (by decide)
  · exact absurd hsign (by decide)

mutual

theorem WrittenAlike.eq {v w : Value} (halike : WrittenAlike v w) (hv : Composed v)
    (hw : Composed w) (h : equal v w = true) : v = w := by
  cases halike with
  | null => rfl
  | bool b c => cases b <;> cases c <;> first | rfl | cases h
  | int m n =>
      have hmn : m = n := beq_iff_eq.1 h
      rw [hmn]
  | float hsign => rw [float_eq_of_equal h hsign]
  | str s t =>
      have hst : s = t := beq_iff_eq.1 h
      rw [hst]
  | bytes a b =>
      have hab : a = b := beq_iff_eq.1 h
      rw [hab]
  | list hitems =>
      cases hv with
      | list hvs =>
          cases hw with
          | list hws => rw [hitems.eq hvs hws h]
  | dict hpairs =>
      cases hv with
      | dict _ hks hvs =>
          cases hw with
          | dict hkeys hls hws =>
              have hfound := (Bool.and_eq_true_iff.1 h).2
              rw [hpairs.eq hks hvs hls hws fun p hp q hq hpq =>
                (equal_of_eachFound hfound hkeys hls hp hq hpq).2]
  | expr hpairs =>
      cases hv with
      | expr _ hks hvs =>
          cases hw with
          | expr hkeys hls hws =>
              have hfound := (Bool.and_eq_true_iff.1 h).2
              rw [hpairs.eq hks hvs hls hws fun p hp q hq hpq =>
                (equal_of_eachFound hfound hkeys hls hp hq hpq).2]

theorem AllWrittenAlike.eq {vs ws : List Value} (halike : AllWrittenAlike vs ws)
    (hvs : ∀ v ∈ vs, Composed v) (hws : ∀ w ∈ ws, Composed w) (h : allEqual vs ws = true) :
    vs = ws := by
  cases halike with
  | nil => rfl
  | cons hv hmore =>
      rw [List.forall_mem_cons] at hvs hws
      rw [allEqual, Bool.and_eq_true] at h
      rw [hv.eq hvs.1 hws.1 h.1, hmore.eq hvs.2 hws.2 h.2]

theorem InOrder.eq {ps qs : List (Value × Value)} (halike : InOrder ps qs)
    (hks : ∀ p ∈ ps, Composed p.1) (hvs : ∀ p ∈ ps, Composed p.2) (hls : ∀ q ∈ qs, Composed q.1)
    (hws : ∀ q ∈ qs, Composed q.2)
    (h : ∀ p ∈ ps, ∀ q ∈ qs, p.1 = q.1 → equal p.2 q.2 = true) : ps = qs := by
  cases halike with
  | nil => rfl
  | cons hkl hk hv hmore =>
      rw [List.forall_mem_cons] at hks hvs hls hws
      have hkey := hk.eq hks.1 hls.1 hkl
      have hvalue := hv.eq hvs.1 hws.1 (h _ List.mem_cons_self _ List.mem_cons_self hkey)
      have hrest := hmore.eq hks.2 hvs.2 hls.2 hws.2 fun p hp q hq =>
        h p (List.mem_cons_of_mem _ hp) q (List.mem_cons_of_mem _ hq)
      rw [hkey, hvalue, hrest]

end

theorem hashAlike_iff_writtenAlike (hps : Composed (.expr ps)) (hqs : Composed (.expr qs))
    (h : equal (.expr ps) (.expr qs) = true) :
    hashAlike (.expr ps) (.expr qs) = true ↔ WrittenAlike (.expr ps) (.expr qs) := by
  rw [hashAlike_iff_eq hps hqs]
  constructor
  · rintro rfl
    exact hps.writtenAlike_self h
  · intro halike
    injection halike.eq hps hqs h

end

theorem hashAlike_iff_writtenAlike_swappedKeys :
    equal (.expr [(.str "paginate", .expr [(.str "now", .null)]), (.str "size", .int 2)])
        (.expr [(.str "size", .int 2), (.str "paginate", .expr [(.str "now", .null)])]) = true ∧
      (hashAlike (.expr [(.str "paginate", .expr [(.str "now", .null)]), (.str "size", .int 2)])
          (.expr [(.str "size", .int 2), (.str "paginate", .expr [(.str "now", .null)])]) = true ↔
        WrittenAlike (.expr [(.str "paginate", .expr [(.str "now", .null)]), (.str "size", .int 2)])
          (.expr [(.str "size", .int 2), (.str "paginate", .expr [(.str "now", .null)])])) := by
  have hnow : Composed (.expr [(.str "now", .null)]) :=
    .expr (keys_of_names ["now"] (by simp)) (by simp [Composed.str]) (by simp [Composed.null])
  refine ⟨rfl, hashAlike_iff_writtenAlike ?_ ?_ rfl⟩
  · exact .expr (keys_of_names ["paginate", "size"] (by decide)) (by simp [Composed.str])
      (by simp [hnow, Composed.int])
  · exact .expr (keys_of_names ["size", "paginate"] (by decide)) (by simp [Composed.str])
      (by simp [hnow, Composed.int])

theorem hashAlike_oneAndTrue :
    equal (.expr [(.str "a", .int 1)]) (.expr [(.str "a", .bool true)]) = true ∧
      hashAlike (.expr [(.str "a", .int 1)]) (.expr [(.str "a", .bool true)]) = false :=
  ⟨rfl, rfl⟩

end QueryShell.Value
