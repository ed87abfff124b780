import QueryShell.Proofs.Query.WireForm
import QueryShell.Query.Evaluation

namespace QueryShell.Query

open Statement (Node)
open Value (LastOfEach textKeyed)

inductive Keywise {α β : Type} (R : α → β → Prop) : List (Str × α) → List (Str × β) → Prop
  where
  | nil : Keywise R [] []
  | cons (key : Str) {a : α} {b : β} {ps : List (Str × α)} {qs : List (Str × β)} :
      R a b → Keywise R ps qs → Keywise R ((key, a) :: ps) ((key, b) :: qs)

def keptOf {α : Type} (pairs : List (Str × α)) : List (Str × α) :=
  pairs.foldl (fun acc e => Value.putText acc e.1 e.2) []

section

variable {α β γ : Type} {R : α → β → Prop} {S : β → γ → Prop} {ps : List (Str × α)}
  {qs : List (Str × β)} {rs : List (Str × γ)}

theorem Keywise.keys (h : Keywise R ps qs) : ps.map Prod.fst = qs.map Prod.fst := by
  induction h with
  | nil => rfl
  | cons key _ _ ih => rw [List.map_cons, List.map_cons, ih]

theorem Keywise.putText (h : Keywise R ps qs) (key : Str) {a : α} {b : β} (hab : R a b) :
    Keywise R (Value.putText ps key a) (Value.putText qs key b) := by
  induction h with
  | nil => exact .cons key hab .nil
  | cons k hk hrest ih =>
      simp only [Value.putText]
      split
      · exact .cons k hab hrest
      · exact .cons k hk ih

theorem Keywise.foldl_putText {ps' : List (Str × α)} {qs' : List (Str × β)}
    (h : Keywise R ps' qs') (hkept : Keywise R ps qs) :
    Keywise R (ps'.foldl (fun acc e => Value.putText acc e.1 e.2) ps)
      (qs'.foldl (fun acc e => Value.putText acc e.1 e.2) qs) := by
  induction h generalizing ps qs with
  | nil => exact hkept
  | cons key hk _ ih => exact ih (hkept.putText key hk)

theorem Keywise.keptOf (h : Keywise R ps qs) : Keywise R (keptOf ps) (keptOf qs) :=
  h.foldl_putText .nil

theorem Keywise.comp (h : Keywise R ps qs) (h' : Keywise S qs rs) :
    Keywise (fun a c => ∃ b, R a b ∧ S b c) ps rs := by
  induction h generalizing rs with
  | nil =>
      cases h'
      exact .nil
  | cons key hk _ ih =>
      cases h' with
      | cons _ hk' hrest => exact .cons key ⟨_, hk, hk'⟩ (ih hrest)

theorem Keywise.of_comp (hfun : ∀ a b b', R a b → R a b' → b = b') (h : Keywise R ps qs)
    (h' : Keywise (fun a c => ∃ b, R a b ∧ S b c) ps rs) : Keywise S qs rs := by
  induction h generalizing rs with
  | nil =>
      cases h'
      exact .nil
  | cons key hk _ ih =>
      cases h' with
      | cons _ hk' hrest =>
          obtain ⟨b, hb, hc⟩ := hk'
          rw [← hfun _ _ _ hk hb] at hc
          exact .cons key hc (ih hrest)

theorem Keywise.mono {T : α → β → Prop} (h : Keywise R ps qs)
    (hall : ∀ p ∈ ps, ∀ b, R p.2 b → T p.2 b) : Keywise T ps qs := by
  induction h with
  | nil => exact .nil
  | cons key hk _ ih =>
      have hhead := hall _ (List.mem_cons_self ..) _ hk
      exact .cons key hhead (ih fun p hp => hall p (List.mem_cons_of_mem _ hp))

theorem exists_keywise (h : ∀ p ∈ ps, ∃ b, R p.2 b) : ∃ qs, Keywise R ps qs := by
  induction ps with
  | nil => exact ⟨[], .nil⟩
  | cons p ps ih =>
      obtain ⟨b, hb⟩ := h p (List.mem_cons_self ..)
      obtain ⟨qs, hqs⟩ := ih fun q hq => h q (List.mem_cons_of_mem _ hq)
      exact ⟨(p.1, b) :: qs, .cons p.1 hb hqs⟩

theorem Keywise.exists_of_mem (h : Keywise R ps qs) : ∀ p ∈ ps, ∃ b, R p.2 b := by
  induction h with
  | nil => simp
  | cons key hk _ ih => exact List.forall_mem_cons.2 ⟨⟨_, hk⟩, ih⟩

end

def Sent (n : Node) (j : Value) : Prop :=
  ∃ v, evaluate catalogueScope n = .ok v ∧ toWire v = .ok j

def HasValue (n : Node) (v : Value) : Prop :=
  evaluate catalogueScope n = .ok v

def HasWire (v j : Value) : Prop :=
  toWire v = .ok j

theorem evaluatePairs_eq_ok {pairs : List (Str × Node)} {entries : List (Str × Value)} :
    evaluatePairs catalogueScope pairs = .ok entries ↔ Keywise HasValue pairs entries := by
  constructor
  · intro h
    induction pairs generalizing entries with
    | nil =>
        cases h
        exact .nil
    | cons p pairs ih =>
        obtain ⟨v, hv, hrest⟩ := bind_ok.1 h
        obtain ⟨more, hmore, heq⟩ := bind_ok.1 hrest
        cases heq
        exact .cons p.1 hv (ih hmore)
  · intro h
    induction h with
    | nil => rfl
    | cons key hv _ ih => exact bind_ok.2 ⟨_, hv, bind_ok.2 ⟨_, ih, rfl⟩⟩

theorem entriesToWire_eq_ok {pairs sent : List (Str × Value)} :
    entriesToWire (textKeyed pairs) = .ok sent ↔ Keywise HasWire pairs sent := by
  constructor
  · intro h
    induction pairs generalizing sent with
    | nil =>
        cases h
        exact .nil
    | cons p pairs ih =>
        obtain ⟨key, hkey, hmore⟩ := bind_ok.1 h
        obtain ⟨j, hj, hrest⟩ := bind_ok.1 hmore
        obtain ⟨more, hsent, heq⟩ := bind_ok.1 hrest
        cases hkey
        cases heq
        exact .cons p.1 hj (ih hsent)
  · intro h
    induction h with
    | nil => rfl
    | cons key hj _ ih => exact bind_ok.2 ⟨key, rfl, bind_ok.2 ⟨_, hj, bind_ok.2 ⟨_, ih, rfl⟩⟩⟩

def sentBindings (sent : List (Str × Value)) : List Value :=
  (textKeyed sent).map fun p => .dict [p]

theorem fieldsToWire_eq_ok {pairs : List (Str × Value)} {fields : List (Value × Value)} :
    fieldsToWire (textKeyed pairs) = .ok fields ↔
      ∃ sent, Keywise HasWire pairs sent ∧ fields = textKeyed sent := by
  constructor
  · intro h
    induction pairs generalizing fields with
    | nil =>
        cases h
        exact ⟨[], .nil, rfl⟩
    | cons p pairs ih =>
        obtain ⟨w, hw, hrest⟩ := bind_ok.1 h
        obtain ⟨more, hmore, heq⟩ := bind_ok.1 hrest
        obtain ⟨sent, hsent, rfl⟩ := ih hmore
        cases heq
        exact ⟨(p.1, w) :: sent, .cons p.1 hw hsent, rfl⟩
  · rintro ⟨sent, hsent, rfl⟩
    induction hsent with
    | nil => rfl
    | cons key hw _ ih => exact bind_ok.2 ⟨_, hw, bind_ok.2 ⟨_, ih, rfl⟩⟩

theorem evaluate_object {pairs : List (Str × Node)} {v : Value} :
    evaluate catalogueScope (.object pairs) = .ok v ↔
      ∃ entries, Keywise HasValue pairs entries ∧ v = .dict (textKeyed (keptOf entries)) := by
  constructor
  · intro h
    obtain ⟨entries, hentries, heq⟩ := bind_ok.1 h
    cases heq
    exact ⟨entries, evaluatePairs_eq_ok.1 hentries, rfl⟩
  · rintro ⟨entries, hentries, rfl⟩
    exact bind_ok.2 ⟨entries, evaluatePairs_eq_ok.2 hentries, rfl⟩

theorem evaluate_let {pairs : List (Str × Node)} {body : Node} {v : Value} :
    evaluate catalogueScope (.call "Let" [.object pairs, body]) = .ok v ↔
      ∃ entries w, Keywise HasValue pairs entries ∧ HasValue body w ∧
        v = .expr [(.str letKey, .list ((textKeyed (keptOf entries)).map fun p => .expr [p])),
          (.str bodyKey, w)] := by
  constructor
  · intro h
    obtain ⟨helper, hhelper, hmore⟩ := bind_ok.1 h
    obtain ⟨args, hargs, hcall⟩ := bind_ok.1 hmore
    obtain ⟨d, hd, hrest⟩ := bind_ok.1 hargs
    obtain ⟨ws, hws, heq⟩ := bind_ok.1 hrest
    obtain ⟨w, hw, hnil⟩ := bind_ok.1 hws
    obtain ⟨entries, hentries, rfl⟩ := evaluate_object.1 hd
    cases hhelper
    cases hnil
    cases heq
    cases hcall
    exact ⟨entries, w, hentries, hw, rfl⟩
  · rintro ⟨entries, w, hentries, hw, rfl⟩
    have hargs : evaluateAll catalogueScope [.object pairs, body] =
        .ok [.dict (textKeyed (keptOf entries)), w] :=
      bind_ok.2 ⟨_, evaluate_object.2 ⟨entries, hentries, rfl⟩,
        bind_ok.2 ⟨_, bind_ok.2 ⟨w, hw, rfl⟩, rfl⟩⟩
    exact bind_ok.2 ⟨_, rfl, bind_ok.2 ⟨_, hargs, rfl⟩⟩

def AllHaveValues (pairs : List (Str × Node)) : Prop :=
  ∀ p ∈ pairs, ∃ v, HasValue p.2 v

theorem allHaveValues_iff {pairs : List (Str × Node)} :
    AllHaveValues pairs ↔ ∃ entries, Keywise HasValue pairs entries :=
  ⟨exists_keywise, fun ⟨_, h⟩ => h.exists_of_mem⟩

section

variable {pairs : List (Str × Node)} {j : Value}

theorem sent_keptOf_iff {entries sent : List (Str × Value)}
    (h : Keywise HasValue pairs entries) :
    Keywise HasWire (keptOf entries) sent ↔ Keywise Sent (keptOf pairs) sent := by
  constructor
  · exact fun hsent => h.keptOf.comp hsent
  · refine fun hsent => h.keptOf.of_comp (fun n v w hv hw => ?_) hsent
    exact Except.ok.inj (hv.symm.trans hw)

theorem nodup_keptOf (entries : List (Str × Value)) :
    ((keptOf entries).map Prod.fst).Nodup :=
  (Value.lastOfEach_foldl entries).once

theorem sent_object_iff :
    Sent (.object pairs) j ↔ AllHaveValues pairs ∧
      ∃ sent, Keywise Sent (keptOf pairs) sent ∧
        j = .dict [(.str objectKey, .dict (textKeyed sent))] := by
  constructor
  · rintro ⟨v, hv, hj⟩
    obtain ⟨entries, hentries, rfl⟩ := evaluate_object.1 hv
    obtain ⟨sent, hsent, heq⟩ := bind_ok.1 hj
    have hwires := entriesToWire_eq_ok.1 hsent
    rw [Value.ofTextPairs_of_nodup (hwires.keys ▸ nodup_keptOf entries)] at heq
    cases heq
    exact ⟨allHaveValues_iff.2 ⟨entries, hentries⟩, sent, (sent_keptOf_iff hentries).1 hwires, rfl⟩
  · rintro ⟨hvalues, sent, hsent, rfl⟩
    obtain ⟨entries, hentries⟩ := allHaveValues_iff.1 hvalues
    have hwires := (sent_keptOf_iff hentries).2 hsent
    refine ⟨_, evaluate_object.2 ⟨entries, hentries, rfl⟩,
      bind_ok.2 ⟨sent, entriesToWire_eq_ok.2 hwires, ?_⟩⟩
    rw [Value.ofTextPairs_of_nodup (hwires.keys ▸ nodup_keptOf entries)]
    rfl

theorem sent_let_iff {body : Node} :
    Sent (.call "Let" [.object pairs, body]) j ↔ AllHaveValues pairs ∧
      ∃ sent w, Keywise Sent (keptOf pairs) sent ∧ Sent body w ∧
        j = .dict [(.str letKey, .list (sentBindings sent)), (.str bodyKey, w)] := by
  constructor
  · rintro ⟨v, hv, hj⟩
    obtain ⟨entries, u, hentries, hu, rfl⟩ := evaluate_let.1 hv
    obtain ⟨fields, w, hfields, hw, rfl⟩ := letToWire_eq_ok.1 hj
    obtain ⟨sent, hsent, rfl⟩ := fieldsToWire_eq_ok.1 hfields
    exact ⟨allHaveValues_iff.2 ⟨entries, hentries⟩, sent, w, (sent_keptOf_iff hentries).1 hsent,
      ⟨u, hu, hw⟩, rfl⟩
  · rintro ⟨hvalues, sent, w, hsent, ⟨u, hu, hw⟩, rfl⟩
    obtain ⟨entries, hentries⟩ := allHaveValues_iff.1 hvalues
    have hwires := (sent_keptOf_iff hentries).2 hsent
    have hfields := fieldsToWire_eq_ok.2 ⟨sent, hwires, rfl⟩
    exact ⟨_, evaluate_let.2 ⟨entries, u, hentries, hu, rfl⟩,
      letToWire_eq_ok.2 ⟨_, w, hfields, hw, rfl⟩⟩

end

inductive IsKeyed : Node → Prop where
  | object (pairs : List (Str × Node)) : IsKeyed (.object pairs)
  | binding (pairs : List (Str × Node)) (body : Node) :
      IsKeyed (.call "Let" [.object pairs, body])

inductive SentKeywise : Node → Value → Prop where
  | object {pairs kept : List (Str × Node)} {sent : List (Str × Value)} :
      AllHaveValues pairs → LastOfEach pairs kept → Keywise SentKeywise kept sent →
      SentKeywise (.object pairs) (.dict [(.str objectKey, .dict (textKeyed sent))])
  | binding {pairs kept : List (Str × Node)} {sent : List (Str × Value)} {body : Node}
      {w : Value} :
      AllHaveValues pairs → LastOfEach pairs kept → Keywise SentKeywise kept sent →
      SentKeywise body w →
      SentKeywise (.call "Let" [.object pairs, body])
        (.dict [(.str letKey, .list (sentBindings sent)), (.str bodyKey, w)])
  | other {n : Node} {j : Value} : ¬ IsKeyed n → Sent n j → SentKeywise n j

theorem sizeOf_lt_of_kept {pairs kept : List (Str × Node)} (h : LastOfEach pairs kept)
    {p : Str × Node} (hp : p ∈ kept) : sizeOf p.2 < sizeOf pairs := by
  have hmem := List.sizeOf_lt_of_mem (h.mem hp)
  have hpair : sizeOf p.2 < sizeOf p := by
    cases p
    simp only [Prod.mk.sizeOf_spec]
    omega
  omega

theorem sizeOf_lt_object (pairs : List (Str × Node)) :
    sizeOf pairs < sizeOf (Node.object pairs) := by
  rw [Node.object.sizeOf_spec]
  omega

theorem sizeOf_lt_let (pairs : List (Str × Node)) (body : Node) :
    sizeOf pairs + sizeOf body < sizeOf (Node.call "Let" [.object pairs, body]) := by
  simp only [Node.call.sizeOf_spec, Node.object.sizeOf_spec, List.cons.sizeOf_spec]
  omega

theorem SentKeywise.sent {n : Node} {j : Value} (h : SentKeywise n j) : Sent n j := by
  cases h with
  | @object pairs kept sent hvalues hkept hsent =>
      have hsize := sizeOf_lt_object pairs
      have hall : Keywise Sent kept sent := hsent.mono fun p hp j hj =>
        have hless := sizeOf_lt_of_kept hkept hp
        hj.sent
      rw [hkept.unique (Value.lastOfEach_foldl _)] at hall
      exact sent_object_iff.2 ⟨hvalues, _, hall, rfl⟩
  | @binding pairs kept sent body w hvalues hkept hsent hbody =>
      have hsize := sizeOf_lt_let pairs body
      have hall : Keywise Sent kept sent := hsent.mono fun p hp j hj =>
        have hless := sizeOf_lt_of_kept hkept hp
        hj.sent
      rw [hkept.unique (Value.lastOfEach_foldl _)] at hall
      exact sent_let_iff.2 ⟨hvalues, _, _, hall, hbody.sent, rfl⟩
  | other _ hsent => exact hsent
termination_by sizeOf n

theorem sentKeywise_of_sent (n : Node) {j : Value} (h : Sent n j) : SentKeywise n j := by
  by_cases hkeyed : IsKeyed n
  · cases hkeyed with
    | object pairs =>
        obtain ⟨hvalues, sent, hsent, rfl⟩ := sent_object_iff.1 h
        have hkept := Value.lastOfEach_foldl pairs
        have hsize := sizeOf_lt_object pairs
        refine .object hvalues hkept (hsent.mono fun p hp j hj => ?_)
        have hless := sizeOf_lt_of_kept hkept hp
        exact sentKeywise_of_sent p.2 hj
    | binding pairs body =>
        obtain ⟨hvalues, sent, w, hsent, hbody, rfl⟩ := sent_let_iff.1 h
        have hkept := Value.lastOfEach_foldl pairs
        have hsize := sizeOf_lt_let pairs body
        refine .binding hvalues hkept (hsent.mono fun p hp j hj => ?_)
          (sentKeywise_of_sent body hbody)
        have hless := sizeOf_lt_of_kept hkept hp
        exact sentKeywise_of_sent p.2 hj
  · exact .other hkeyed h
termination_by sizeOf n

theorem sent_keywise {pairs : List (Str × Node)} {body : Node} {w : Value}
    (hpairs : ∀ p ∈ pairs, ∃ j, Sent p.2 j) (hbody : Sent body w) :
    (∃ kept sent, LastOfEach pairs kept ∧ Keywise Sent kept sent ∧
      Sent (.object pairs) (.dict [(.str objectKey, .dict (textKeyed sent))]) ∧
      Sent (.call "Let" [.object pairs, body])
        (.dict [(.str letKey, .list (sentBindings sent)), (.str bodyKey, w)])) ∧
      ∀ n j, Sent n j ↔ SentKeywise n j := by
  have hkept := Value.lastOfEach_foldl pairs
  have hvalues : AllHaveValues pairs := fun p hp => by
    obtain ⟨j, v, hv, -⟩ := hpairs p hp
    exact ⟨v, hv⟩
  obtain ⟨sent, hsent⟩ := exists_keywise fun p hp => hpairs p (hkept.mem hp)
  exact ⟨⟨keptOf pairs, sent, hkept, hsent, sent_object_iff.2 ⟨hvalues, sent, hsent, rfl⟩,
    sent_let_iff.2 ⟨hvalues, sent, w, hsent, hbody, rfl⟩⟩,
    fun n _ => ⟨sentKeywise_of_sent n, SentKeywise.sent⟩⟩

def clashingPairs : List (Str × Node) :=
  [("object", .literal (.int 1)),
    ("let", .call "Let" [.object [("x", .literal .null), ("x", .literal (.int 2))],
      .call "Var" [.literal (.str "x")]]),
    ("object", .object [("let", .literal (.bool true))])]

def clashingBody : Node :=
  .call "Var" [.literal (.str "let")]

theorem sent_keywise_clashingPairs :
    (∀ p ∈ clashingPairs, ∃ j, Sent p.2 j) ∧
      Sent clashingBody (.dict [(.str "var", .str "let")]) ∧
      ∃ kept sent, LastOfEach clashingPairs kept ∧ Keywise Sent kept sent ∧
        Sent (.object clashingPairs) (.dict [(.str "object", .dict (textKeyed sent))]) ∧
        Sent (.call "Let" [.object clashingPairs, clashingBody])
          (.dict [(.str "let", .list (sentBindings sent)),
            (.str "in", .dict [(.str "var", .str "let")])]) := by
  have hpairs : ∀ p ∈ clashingPairs, ∃ j, Sent p.2 j := by
    intro p hp
    simp only [clashingPairs, List.mem_cons, List.not_mem_nil, or_false] at hp
    rcases hp with rfl | rfl | rfl <;> exact ⟨_, _, rfl, rfl⟩
  have hbody : Sent clashingBody (.dict [(.str "var", .str "let")]) := ⟨_, rfl, rfl⟩
  exact ⟨hpairs, hbody, (sent_keywise hpairs hbody).1⟩

example : Sent (.object clashingPairs)
    (.dict [(.str "object", .dict
      [(.str "object", .dict [(.str "object", .dict [(.str "let", .bool true)])]),
        (.str "let", .dict [(.str "let", .list [.dict [(.str "x", .int 2)]]),
          (.str "in", .dict [(.str "var", .str "x")])])])]) :=
  ⟨_, rfl, rfl⟩

end QueryShell.Query
