import QueryShell.Proofs.Computation
import QueryShell.Proofs.Value.TextKeys
import QueryShell.Query.Wire

namespace QueryShell.Query

open Value (textKeyed)

def letKey : String := "let"

def bodyKey : String := "in"

def Reserved (key : Str) : Prop :=
  key = objectKey ∨ key = letKey

inductive Scalar : Value → Prop where
  | null : Scalar .null
  | bool (b : Bool) : Scalar (.bool b)
  | int (n : Int) : Scalar (.int n)
  | float (x : Float) : Scalar (.float x)
  | str (s : Str) : Scalar (.str s)

mutual

inductive WireForm : Value → Value → Prop where
  | scalar {v : Value} : Scalar v → WireForm v v
  | list {items sent : List Value} : AllWireForm items sent → WireForm (.list items) (.list sent)
  | dict {key : Str} {pairs sent : List (Value × Value)} : key = objectKey →
      FieldsWireForm pairs sent → WireForm (.dict pairs) (.dict [(.str key, .dict sent)])
  | call {key : Str} {v j : Value} {fields sent : List (Value × Value)} : ¬ Reserved key →
      WireForm v j → FieldsWireForm fields sent →
      WireForm (.expr ((.str key, v) :: fields)) (.dict ((.str key, j) :: sent))
  | binding {key : Str} {bindings sent : List Value} {body j : Value} : key = letKey →
      BindingsWireForm bindings sent → WireForm body j →
      WireForm (.expr [(.str key, .list bindings), (.str bodyKey, body)])
        (.dict [(.str key, .list sent), (.str bodyKey, j)])

inductive AllWireForm : List Value → List Value → Prop where
  | nil : AllWireForm [] []
  | cons {v j : Value} {vs js : List Value} : WireForm v j → AllWireForm vs js →
      AllWireForm (v :: vs) (j :: js)

inductive FieldsWireForm : List (Value × Value) → List (Value × Value) → Prop where
  | nil : FieldsWireForm [] []
  | cons (key : Value) {v j : Value} {ps qs : List (Value × Value)} : WireForm v j →
      FieldsWireForm ps qs → FieldsWireForm ((key, v) :: ps) ((key, j) :: qs)

inductive BindingsWireForm : List Value → List Value → Prop where
  | nil : BindingsWireForm [] []
  | cons (key : Str) {v j : Value} {vs js : List Value} : WireForm v j →
      BindingsWireForm vs js →
      BindingsWireForm (.expr [(.str key, v)] :: vs) (.dict [(.str key, j)] :: js)

end

mutual

theorem WireForm.inj {v w j : Value} (hv : WireForm v j) (hw : WireForm w j) : v = w := by
  cases hv with
  | scalar hs =>
      cases hs <;>
        · cases hw
          rfl
  | list hitems =>
      cases hw with
      | scalar hs => cases hs
      | list hitems' => rw [hitems.inj hitems']
  | dict hkey hpairs =>
      cases hw with
      | scalar hs => cases hs
      | dict hkey' hpairs' => rw [hpairs.inj hpairs']
      | call hfree _ _ => exact absurd (.inl hkey) hfree
  | call hfree hfirst hfields =>
      cases hw with
      | scalar hs => cases hs
      | dict hkey' hpairs' => exact absurd (.inl hkey') hfree
      | call _ hfirst' hfields' => rw [hfirst.inj hfirst', hfields.inj hfields']
      | binding hkey' _ _ => exact absurd (.inr hkey') hfree
  | binding hkey hbindings hbody =>
      cases hw with
      | scalar hs => cases hs
      | call hfree _ _ => exact absurd (.inr hkey) hfree
      | binding _ hbindings' hbody' => rw [hbindings.inj hbindings', hbody.inj hbody']

theorem AllWireForm.inj {vs ws js : List Value} (hvs : AllWireForm vs js)
    (hws : AllWireForm ws js) : vs = ws := by
  cases hvs with
  | nil => cases hws; rfl
  | cons hv hrest =>
      cases hws with
      | cons hw hrest' => rw [hv.inj hw, hrest.inj hrest']

theorem FieldsWireForm.inj {ps qs js : List (Value × Value)} (hps : FieldsWireForm ps js)
    (hqs : FieldsWireForm qs js) : ps = qs := by
  cases hps with
  | nil => cases hqs; rfl
  | cons key hv hrest =>
      cases hqs with
      | cons _ hw hrest' => rw [hv.inj hw, hrest.inj hrest']

theorem BindingsWireForm.inj {vs ws js : List Value} (hvs : BindingsWireForm vs js)
    (hws : BindingsWireForm ws js) : vs = ws := by
  cases hvs with
  | nil => cases hws; rfl
  | cons key hv hrest =>
      cases hws with
      | cons _ hw hrest' => rw [hv.inj hw, hrest.inj hrest']

end

def Faithful (v : Value) : Prop :=
  ∀ j, toWire v = .ok j → WireForm v j

theorem Scalar.faithful {v : Value} (h : Scalar v) : Faithful v := by
  intro j hj
  have hsame : toWire v = .ok v := by cases h <;> rfl
  rw [hsame] at hj
  cases hj
  exact .scalar h

theorem allWireForm_of_eq {items sent : List Value} (hall : ∀ v ∈ items, Faithful v)
    (h : allToWire items = .ok sent) : AllWireForm items sent := by
  induction items generalizing sent with
  | nil =>
      cases h
      exact .nil
  | cons v items ih =>
      obtain ⟨j, hj, hrest⟩ := bind_ok.1 h
      obtain ⟨js, hjs, heq⟩ := bind_ok.1 hrest
      cases heq
      exact .cons (hall v (by simp) j hj) (ih (fun w hw => hall w (by simp [hw])) hjs)

theorem fieldsWireForm_of_eq {fields sent : List (Value × Value)}
    (hall : ∀ p ∈ fields, Faithful p.2) (h : fieldsToWire fields = .ok sent) :
    FieldsWireForm fields sent := by
  induction fields generalizing sent with
  | nil =>
      cases h
      exact .nil
  | cons p fields ih =>
      obtain ⟨j, hj, hrest⟩ := bind_ok.1 h
      obtain ⟨qs, hqs, heq⟩ := bind_ok.1 hrest
      cases heq
      exact .cons p.1 (hall p (by simp) j hj) (ih (fun q hq => hall q (by simp [hq])) hqs)

theorem entriesWireForm_of_eq {pairs sent : List (Str × Value)}
    (hall : ∀ p ∈ pairs, Faithful p.2) (h : entriesToWire (textKeyed pairs) = .ok sent) :
    sent.map Prod.fst = pairs.map Prod.fst ∧
      FieldsWireForm (textKeyed pairs) (textKeyed sent) := by
  induction pairs generalizing sent with
  | nil =>
      cases h
      exact ⟨rfl, .nil⟩
  | cons p pairs ih =>
      obtain ⟨key, hkey, hmore⟩ := bind_ok.1 h
      obtain ⟨j, hj, hrest⟩ := bind_ok.1 hmore
      obtain ⟨qs, hqs, heq⟩ := bind_ok.1 hrest
      cases hkey
      cases heq
      obtain ⟨hkeys, hfields⟩ := ih (fun q hq => hall q (by simp [hq])) hqs
      exact ⟨by simp [hkeys], .cons _ (hall p (by simp) j hj) hfields⟩

theorem toWire_binding {p : Value × Value} {j : Value} :
    toWire (.expr [p]) = .ok j ↔ ∃ w, toWire p.2 = .ok w ∧ j = .dict [(p.1, w)] := by
  constructor
  · intro h
    obtain ⟨fields, hfields, heq⟩ := bind_ok.1 h
    obtain ⟨w, hw, hnil⟩ := bind_ok.1 hfields
    cases heq
    cases hnil
    exact ⟨w, hw, rfl⟩
  · rintro ⟨w, hw, rfl⟩
    exact bind_ok.2 ⟨_, bind_ok.2 ⟨w, hw, rfl⟩, rfl⟩

theorem bindingsWireForm_of_eq {pairs : List (Str × Value)} {sent : List Value}
    (hall : ∀ p ∈ pairs, Faithful p.2)
    (h : allToWire (pairs.map fun p => .expr [(.str p.1, p.2)]) = .ok sent) :
    BindingsWireForm (pairs.map fun p => .expr [(.str p.1, p.2)]) sent := by
  induction pairs generalizing sent with
  | nil =>
      cases h
      exact .nil
  | cons p pairs ih =>
      obtain ⟨j, hj, hrest⟩ := bind_ok.1 h
      obtain ⟨js, hjs, heq⟩ := bind_ok.1 hrest
      obtain ⟨w, hw, rfl⟩ := toWire_binding.1 hj
      cases heq
      exact .cons p.1 (hall p (by simp) w hw) (ih (fun q hq => hall q (by simp [hq])) hjs)

theorem bindingsToWire_eq_ok {pairs : List (Value × Value)} {js : List Value} :
    allToWire (pairs.map fun p => .expr [p]) = .ok js ↔
      ∃ sent, fieldsToWire pairs = .ok sent ∧ js = sent.map fun p => .dict [p] := by
  induction pairs generalizing js with
  | nil =>
      constructor
      · intro h
        cases h
        exact ⟨[], rfl, rfl⟩
      · rintro ⟨sent, hsent, rfl⟩
        cases hsent
        rfl
  | cons p pairs ih =>
      constructor
      · intro h
        obtain ⟨j, hj, hrest⟩ := bind_ok.1 h
        obtain ⟨more, hmore, heq⟩ := bind_ok.1 hrest
        obtain ⟨w, hw, rfl⟩ := toWire_binding.1 hj
        obtain ⟨sent, hsent, rfl⟩ := ih.1 hmore
        cases heq
        exact ⟨(p.1, w) :: sent, bind_ok.2 ⟨w, hw, bind_ok.2 ⟨sent, hsent, rfl⟩⟩, rfl⟩
      · rintro ⟨sent, hsent, rfl⟩
        obtain ⟨w, hw, hrest⟩ := bind_ok.1 hsent
        obtain ⟨more, hmore, heq⟩ := bind_ok.1 hrest
        cases heq
        have hrest := ih.2 ⟨more, hmore, rfl⟩
        exact bind_ok.2 ⟨_, toWire_binding.2 ⟨w, hw, rfl⟩, bind_ok.2 ⟨_, hrest, rfl⟩⟩

theorem letToWire_eq_ok {pairs : List (Value × Value)} {body j : Value} :
    toWire (.expr [(.str letKey, .list (pairs.map fun p => .expr [p])), (.str bodyKey, body)]) =
        .ok j ↔
      ∃ sent w, fieldsToWire pairs = .ok sent ∧ toWire body = .ok w ∧
        j = .dict [(.str letKey, .list (sent.map fun p => .dict [p])), (.str bodyKey, w)] := by
  constructor
  · intro h
    obtain ⟨fields, hfields, heq⟩ := bind_ok.1 h
    obtain ⟨bindings, hbindings, hmore⟩ := bind_ok.1 hfields
    obtain ⟨js, hjs, hlist⟩ := bind_ok.1 hbindings
    obtain ⟨rest, hrest, hcons⟩ := bind_ok.1 hmore
    obtain ⟨w, hw, hnil⟩ := bind_ok.1 hrest
    obtain ⟨sent, hsent, rfl⟩ := bindingsToWire_eq_ok.1 hjs
    cases hlist
    cases hnil
    cases hcons
    cases heq
    exact ⟨sent, w, hsent, hw, rfl⟩
  · rintro ⟨sent, w, hsent, hw, rfl⟩
    have hjs := bindingsToWire_eq_ok.2 ⟨sent, hsent, rfl⟩
    exact bind_ok.2 ⟨_, bind_ok.2 ⟨_, bind_ok.2 ⟨_, hjs, rfl⟩,
      bind_ok.2 ⟨_, bind_ok.2 ⟨w, hw, rfl⟩, rfl⟩⟩, rfl⟩

theorem faithful_list {items : List Value} (h : ∀ v ∈ items, Faithful v) :
    Faithful (.list items) := by
  intro j hj
  obtain ⟨sent, hsent, heq⟩ := bind_ok.1 hj
  cases heq
  exact .list (allWireForm_of_eq h hsent)

theorem faithful_dict {pairs : List (Str × Value)} (hkeys : (pairs.map Prod.fst).Nodup)
    (h : ∀ p ∈ pairs, Faithful p.2) : Faithful (.dict (textKeyed pairs)) := by
  intro j hj
  obtain ⟨sent, hsent, heq⟩ := bind_ok.1 hj
  obtain ⟨hsame, hfields⟩ := entriesWireForm_of_eq h hsent
  rw [Value.ofTextPairs_of_nodup (hsame ▸ hkeys)] at heq
  cases heq
  exact .dict rfl hfields

theorem faithful_call {key : Str} {v : Value} {fields : List (Value × Value)}
    (hfree : ¬ Reserved key) (hv : Faithful v) (h : ∀ p ∈ fields, Faithful p.2) :
    Faithful (.expr ((.str key, v) :: fields)) := by
  intro j hj
  obtain ⟨sent, hsent, heq⟩ := bind_ok.1 hj
  obtain ⟨w, hw, hrest⟩ := bind_ok.1 hsent
  obtain ⟨qs, hqs, hcons⟩ := bind_ok.1 hrest
  cases heq
  cases hcons
  exact .call hfree (hv w hw) (fieldsWireForm_of_eq h hqs)

theorem faithful_binding {pairs : List (Str × Value)} {body : Value}
    (h : ∀ p ∈ pairs, Faithful p.2) (hbody : Faithful body) :
    Faithful (.expr [(.str letKey, .list (pairs.map fun p => .expr [(.str p.1, p.2)])),
      (.str bodyKey, body)]) := by
  intro j hj
  obtain ⟨sent, hsent, heq⟩ := bind_ok.1 hj
  obtain ⟨w, hw, hrest⟩ := bind_ok.1 hsent
  obtain ⟨qs, hqs, hcons⟩ := bind_ok.1 hrest
  obtain ⟨u, hu, hlast⟩ := bind_ok.1 hqs
  obtain ⟨js, hjs, hlist⟩ := bind_ok.1 hw
  cases heq
  cases hcons
  cases hlast
  cases hlist
  exact .binding rfl (bindingsWireForm_of_eq h hjs) (hbody u hu)

end QueryShell.Query
