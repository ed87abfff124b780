import QueryShell.Proofs.Query.Calls
import QueryShell.Proofs.Query.WireForm
import QueryShell.Proofs.Statement.Reading
import QueryShell.Query.Evaluation

namespace QueryShell.Query

open Statement (Node)
open Value (textKeyed items?)

inductive Plain : Node → Prop where
  | literal {v : Value} : Scalar v → Plain (.literal v)
  | identifier (name : String) : Plain (.identifier name)
  | call (name : String) {args : List Node} : (∀ n ∈ args, Plain n) → Plain (.call name args)
  | array {items : List Node} : (∀ n ∈ items, Plain n) → Plain (.array items)
  | object {pairs : List (Str × Node)} : (∀ p ∈ pairs, Plain p.2) → Plain (.object pairs)

inductive Expressible : Value → Prop where
  | scalar {v : Value} : Scalar v → Expressible v
  | helper (h : Helper) : Expressible (.helper h)
  | list {items : List Value} : (∀ v ∈ items, Expressible v) → Expressible (.list items)
  | dict {pairs : List (Str × Value)} : (pairs.map Prod.fst).Nodup →
      (∀ p ∈ pairs, Expressible p.2) → Expressible (.dict (textKeyed pairs))
  | call {key : Str} {v : Value} {fields : List (Value × Value)} : ¬ Reserved key →
      Expressible v → (∀ p ∈ fields, Expressible p.2) →
      Expressible (.expr ((.str key, v) :: fields))
  | binding {pairs : List (Str × Value)} {body : Value} : (∀ p ∈ pairs, Expressible p.2) →
      Expressible body →
      Expressible (.expr [(.str letKey, .list (pairs.map fun p => .expr [(.str p.1, p.2)])),
        (.str bodyKey, body)])

theorem Expressible.faithful {v : Value} (h : Expressible v) : Faithful v := by
  induction h with
  | scalar hs => exact hs.faithful
  | helper h =>
      intro j hj
      cases hj
  | list _ ih => exact faithful_list ih
  | dict hkeys _ ih => exact faithful_dict hkeys ih
  | call hfree _ _ ihv ihfields => exact faithful_call hfree ihv ihfields
  | binding _ _ ihpairs ihbody => exact faithful_binding ihpairs ihbody

theorem Expressible.wire_inj {v w j : Value} (hv : Expressible v) (hw : Expressible w)
    (hj : toWire v = .ok j) (hj' : toWire w = .ok j) : v = w :=
  (hv.faithful j hj).inj (hw.faithful j hj')

theorem Expressible.ofOption {found : Option Value} (h : ∀ v ∈ found, Expressible v) :
    Expressible (Value.ofOption found) := by
  cases found with
  | none => exact .scalar .null
  | some v => exact h v rfl

theorem Expressible.bundled {vs : List Value} (h : ∀ v ∈ vs, Expressible v) :
    Expressible (bundled vs) := by
  unfold Query.bundled
  split
  · exact h _ (by simp)
  · exact .list h

theorem Expressible.items {v : Value} {parts : List Value} (h : Expressible v)
    (hparts : v.items? = some parts) : ∀ w ∈ parts, Expressible w := by
  cases h with
  | scalar hs =>
      cases hs with
      | str s =>
          cases hparts
          intro w hw
          obtain ⟨c, -, rfl⟩ := List.mem_map.1 hw
          exact .scalar (.str _)
      | null => cases hparts
      | bool b => cases hparts
      | int n => cases hparts
      | float x => cases hparts
  | helper h => cases hparts
  | list hitems =>
      cases hparts
      exact hitems
  | dict hkeys hpairs =>
      cases hparts
      intro w hw
      simp only [textKeyed, List.map_map, List.mem_map] at hw
      obtain ⟨p, -, rfl⟩ := hw
      exact .scalar (.str p.1)
  | call => cases hparts
  | binding => cases hparts

def AllExpressible (fields : List (Value × Value)) : Prop :=
  ∀ p ∈ fields, Expressible p.2

theorem mem_put {pairs : List (Value × Value)} {key value : Value} {p : Value × Value}
    (h : p ∈ Value.put pairs key value) : p ∈ pairs ∨ p.2 = value := by
  induction pairs with
  | nil => exact .inr (by rw [List.mem_singleton.1 h])
  | cons q pairs ih =>
      rw [Value.put] at h
      split at h
      · rcases List.mem_cons.1 h with rfl | hmem
        · exact .inr rfl
        · exact .inl (List.mem_cons_of_mem _ hmem)
      · rcases List.mem_cons.1 h with rfl | hmem
        · exact .inl (List.mem_cons_self ..)
        · exact (ih hmem).imp_left (List.mem_cons_of_mem _)

section

variable {fields entries merged : List (Value × Value)}

theorem AllExpressible.put (h : AllExpressible fields) (key : Value) {value : Value}
    (hvalue : Expressible value) : AllExpressible (Value.put fields key value) := by
  intro p hp
  rcases mem_put hp with hold | hnew
  · exact h p hold
  · rw [hnew]
    exact hvalue

theorem AllExpressible.putAll (h : AllExpressible fields) (hentries : AllExpressible entries) :
    AllExpressible (Value.putAll fields entries) := by
  unfold Value.putAll
  induction entries generalizing fields with
  | nil => exact h
  | cons e entries ih =>
      exact ih (h.put e.1 (hentries e (by simp))) fun d hd => hentries d (by simp [hd])

theorem AllExpressible.putEntry {index : Nat} {item : Value} (h : AllExpressible fields)
    (hitem : Expressible item) (hmerged : Value.putEntry fields index item = .ok merged) :
    AllExpressible merged := by
  unfold Value.putEntry at hmerged
  split at hmerged
  · cases hmerged
  · next key value hparts =>
      obtain ⟨-, -, heq⟩ := bind_ok.1 hmerged
      cases heq
      exact h.put key (hitem.items hparts value (by simp))
  · cases hmerged

theorem AllExpressible.putEntries {items : List Value} {index : Nat} (h : AllExpressible fields)
    (hitems : ∀ v ∈ items, Expressible v)
    (hmerged : Value.putEntries fields index items = .ok merged) : AllExpressible merged := by
  induction items generalizing fields index with
  | nil =>
      cases hmerged
      exact h
  | cons item items ih =>
      obtain ⟨next, hnext, hrest⟩ := bind_ok.1 hmerged
      have hwritten := h.putEntry (hitems item (by simp)) hnext
      exact ih hwritten (fun v hv => hitems v (by simp [hv])) hrest

theorem AllExpressible.merge {added : Value} (h : AllExpressible fields)
    (hadded : Expressible added) (hmerged : Value.merge fields added = .ok merged) :
    AllExpressible merged := by
  unfold Value.merge at hmerged
  split at hmerged
  · cases hmerged
    exact h
  · split at hmerged
    · cases hmerged
      cases hadded with
      | scalar hs => cases hs
      | dict hkeys hpairs =>
          refine h.putAll fun e he => ?_
          obtain ⟨p, hp, rfl⟩ := List.mem_map.1 he
          exact hpairs p hp
    · split at hmerged
      · next hparts => exact h.putEntries (hadded.items hparts) hmerged
      · cases hmerged

theorem Opening.expressible (h : Opening (.str "paginate") fields) (hall : AllExpressible fields) :
    Expressible (.expr fields) := by
  obtain ⟨v, rest, rfl⟩ := h
  have hfree : ¬ Reserved "paginate" := by simp [Reserved, objectKey, letKey]
  have hpage := hall (.str "paginate", v) (by simp)
  exact .call hfree hpage fun p hp => hall p (by simp [hp])

end

def Source.Sure (required : Nat) : Source → Prop
  | .argument index => index < required
  | .restIfAny => False
  | _ => True

instance (required : Nat) (source : Source) : Decidable (source.Sure required) := by
  cases source <;> unfold Source.Sure <;> infer_instance

def Opens (h : Helper) : Prop :=
  match h.body with
  | .fields [] => False
  | .fields (f :: _) => f.source.Sure h.required.length ∧ f.key ≠ objectKey ∧ f.key ≠ letKey
  | _ => True

instance (h : Helper) : Decidable (Opens h) := by
  unfold Opens
  split <;> infer_instance

theorem opens_of_mem : ∀ h ∈ catalogue, Opens h := by
  decide

theorem Source.value?_expressible {rest given : List Value} {source : Source} {v : Value}
    (hrest : ∀ w ∈ rest, Expressible w) (hgiven : ∀ w ∈ given, Expressible w)
    (h : source.value? rest given = some v) : Expressible v := by
  cases source with
  | argument index => exact hgiven v (List.mem_of_getElem? h)
  | argumentOrNull index =>
      cases h
      exact .ofOption fun w hw => hgiven w (List.mem_of_getElem? hw)
  | null =>
      cases h
      exact .scalar .null
  | rest =>
      cases h
      exact .bundled hrest
  | restIfAny =>
      simp only [value?] at h
      split at h
      · cases h
      · cases h
        exact .bundled hrest
  | restArray =>
      cases h
      exact .list hrest

theorem Source.Sure.exists_value {required : Nat} {given : List Value} {source : Source}
    (h : source.Sure required) (rest : List Value) (hgiven : required ≤ given.length) :
    ∃ v, source.value? rest given = some v := by
  cases source with
  | argument index =>
      have hlt : index < given.length := Nat.lt_of_lt_of_le h hgiven
      exact ⟨given[index], List.getElem?_eq_getElem hlt⟩
  | argumentOrNull index => exact ⟨_, rfl⟩
  | null => exact ⟨_, rfl⟩
  | rest => exact ⟨_, rfl⟩
  | restIfAny => exact h.elim
  | restArray => exact ⟨_, rfl⟩

theorem build_expressible {f : Field} {fields : List Field} {rest given : List Value}
    {required : Nat} (hsure : f.source.Sure required) (hfree : ¬ Reserved f.key)
    (hcount : required ≤ given.length) (hrest : ∀ w ∈ rest, Expressible w)
    (hgiven : ∀ w ∈ given, Expressible w) : Expressible (build (f :: fields) rest given) := by
  obtain ⟨v, hv⟩ := hsure.exists_value rest hcount
  simp only [build, List.filterMap_cons, hv, Option.map_some]
  refine .call hfree (Source.value?_expressible hrest hgiven hv) fun p hp => ?_
  obtain ⟨g, -, hg⟩ := List.mem_filterMap.1 hp
  obtain ⟨w, hw, rfl⟩ := Option.map_eq_some_iff.1 hg
  exact Source.value?_expressible hrest hgiven hw

theorem bind_expressible {bindings body v : Value} (hbindings : Expressible bindings)
    (hbody : Expressible body) (h : bind bindings body = .ok v) : Expressible v := by
  cases hbindings with
  | dict hkeys hpairs =>
      cases h
      rw [textKeyed, List.map_map]
      exact .binding hpairs hbody
  | scalar hs => cases hs <;> cases h
  | helper => cases h
  | list => cases h
  | call => cases h
  | binding => cases h

theorem call_expressible {h : Helper} (hh : Opens h) {args : List Value} {v : Value}
    (hargs : ∀ a ∈ args, Expressible a) (hcall : h.call args = .ok v) : Expressible v := by
  obtain ⟨hfits, hbuilds⟩ := builds_of_call hcall
  have hcount := required_le_given hfits
  have hgiven : ∀ a ∈ args.take h.parameters.length, Expressible a :=
    fun a ha => hargs a (List.mem_of_mem_take ha)
  have hrest : ∀ a ∈ args.drop h.parameters.length, Expressible a :=
    fun a ha => hargs a (List.mem_of_mem_drop ha)
  generalize hbody : h.body = shape at hbuilds
  cases hbuilds with
  | fields fields =>
      rw [Opens, hbody] at hh
      cases fields with
      | nil => exact hh.elim
      | cons f fields =>
          obtain ⟨hsure, hobject, hlet⟩ := hh
          have hfree : ¬ Reserved f.key := by simpa [Reserved] using ⟨hobject, hlet⟩
          exact build_expressible hsure hfree hcount hrest hgiven
  | bindings hgot hbind =>
      rw [hgot] at hgiven
      exact bind_expressible (hgiven _ (by simp)) (hgiven _ (by simp)) hbind
  | @page page hgot =>
      rw [hgot] at hgiven
      have hall : AllExpressible [(.str "paginate", page)] := by
        simpa [AllExpressible] using hgiven
      exact Opening.expressible ⟨page, [], rfl⟩ hall
  | @options page options merged hgot hmerged =>
      rw [hgot] at hgiven
      have hpage : AllExpressible [(.str "paginate", page)] := by
        simpa [AllExpressible] using hgiven page (by simp)
      have hopening : Opening (.str "paginate") [(.str "paginate", page)] := ⟨page, [], rfl⟩
      exact (hopening.merge hmerged).expressible (hpage.merge (hgiven options (by simp)) hmerged)

theorem exists_helper {name : String} {v : Value} (h : lookup catalogueScope name = .ok v) :
    ∃ helper ∈ catalogue, v = .helper helper := by
  unfold lookup at h
  split at h
  · next w hw =>
      cases h
      obtain ⟨before, after, hscope, -⟩ := List.lookup_eq_some_iff.1 hw
      have hmem : (name, v) ∈ catalogueScope := by simp [hscope]
      obtain ⟨helper, hhelper, heq⟩ := List.mem_map.1 hmem
      cases heq
      exact ⟨helper, hhelper, rfl⟩
  · cases h

theorem expressible_of_evaluateAll {nodes : List Node} {values : List Value}
    (hall : ∀ n ∈ nodes, ∀ v, evaluate catalogueScope n = .ok v → Expressible v)
    (h : evaluateAll catalogueScope nodes = .ok values) : ∀ v ∈ values, Expressible v := by
  induction nodes generalizing values with
  | nil =>
      cases h
      simp
  | cons n nodes ih =>
      obtain ⟨v, hv, hrest⟩ := bind_ok.1 h
      obtain ⟨vs, hvs, heq⟩ := bind_ok.1 hrest
      cases heq
      intro w hw
      rcases List.mem_cons.1 hw with rfl | hmem
      · exact hall n (by simp) w hv
      · exact ih (fun m hm => hall m (by simp [hm])) hvs w hmem

theorem expressible_of_evaluatePairs {pairs : List (Str × Node)}
    {entries : List (Str × Value)}
    (hall : ∀ p ∈ pairs, ∀ v, evaluate catalogueScope p.2 = .ok v → Expressible v)
    (h : evaluatePairs catalogueScope pairs = .ok entries) : ∀ e ∈ entries, Expressible e.2 := by
  induction pairs generalizing entries with
  | nil =>
      cases h
      simp
  | cons p pairs ih =>
      obtain ⟨v, hv, hrest⟩ := bind_ok.1 h
      obtain ⟨es, hes, heq⟩ := bind_ok.1 hrest
      cases heq
      intro e he
      rcases List.mem_cons.1 he with rfl | hmem
      · exact hall p (by simp) v hv
      · exact ih (fun q hq => hall q (by simp [hq])) hes e hmem

theorem Plain.expressible {n : Node} (hn : Plain n) {v : Value}
    (h : evaluate catalogueScope n = .ok v) : Expressible v := by
  induction hn generalizing v with
  | literal hs =>
      cases h
      exact .scalar hs
  | identifier name =>
      obtain ⟨helper, -, rfl⟩ := exists_helper h
      exact .helper helper
  | call name _ ih =>
      obtain ⟨helper, hlookup, hmore⟩ := bind_ok.1 h
      obtain ⟨args, hargs, hcall⟩ := bind_ok.1 hmore
      obtain ⟨w, hw, hhelper⟩ := bind_ok.1 hlookup
      obtain ⟨found, hmem, rfl⟩ := exists_helper hw
      cases hhelper
      unfold callHelper at hcall
      split at hcall
      · next hdone =>
          cases hcall
          have hall := expressible_of_evaluateAll (fun n hn v hv => ih n hn hv) hargs
          exact call_expressible (opens_of_mem _ hmem) hall hdone
      · cases hcall
  | array _ ih =>
      obtain ⟨items, hitems, heq⟩ := bind_ok.1 h
      cases heq
      exact .list (expressible_of_evaluateAll (fun n hn v hv => ih n hn hv) hitems)
  | object _ ih =>
      obtain ⟨entries, hentries, heq⟩ := bind_ok.1 h
      have hall := expressible_of_evaluatePairs (fun p hp v hv => ih p hp hv) hentries
      obtain ⟨pairs, hpairs, hkeys, hvalues⟩ := Value.exists_ofTextPairs hall
      cases heq
      rw [hpairs]
      exact .dict hkeys hvalues

theorem scalar_of_denotesNumber {token : List Char} {v : Value}
    (h : Statement.DenotesNumber token v) : Scalar v := by
  cases h with
  | integer => exact .int _
  | float => exact .float _

section

variable [Statement.CharacterNames]

mutual

theorem plain_of_denotes {form : Statement.Form} {n : Node} (h : Statement.Denotes form n) :
    Plain n := by
  cases h with
  | true => exact .literal (.bool _)
  | false => exact .literal (.bool _)
  | null => exact .literal .null
  | identifier => exact .identifier _
  | string => exact .literal (.str _)
  | number hv => exact .literal (scalar_of_denotesNumber hv)
  | call hargs => exact .call _ (plain_of_denotesAll hargs)
  | array hitems => exact .array (plain_of_denotesAll hitems)
  | object hpairs => exact .object (plain_of_denotesPairs hpairs)

theorem plain_of_denotesAll {forms : List Statement.Form} {nodes : List Node}
    (h : Statement.DenotesAll forms nodes) : ∀ n ∈ nodes, Plain n := by
  cases h with
  | nil => simp
  | cons hform hforms =>
      exact List.forall_mem_cons.2 ⟨plain_of_denotes hform, plain_of_denotesAll hforms⟩

theorem plain_of_denotesPairs {pairs : List (Statement.Key × Statement.Form)}
    {nodes : List (Str × Node)} (h : Statement.DenotesPairs pairs nodes) :
    ∀ p ∈ nodes, Plain p.2 := by
  cases h with
  | nil => simp
  | cons _ hform hpairs =>
      exact List.forall_mem_cons.2 ⟨plain_of_denotes hform, plain_of_denotesPairs hpairs⟩

end

theorem plain_of_read {text : List Char} {nodes : List Node}
    (h : Statement.read text = .parsed nodes) : ∀ n ∈ nodes, Plain n := by
  obtain ⟨tokens, forms, -, -, hdenotes⟩ := Statement.written_of_read h
  exact plain_of_denotesAll hdenotes

end

theorem eq_of_toWire_eq {n m : Node} {v w j : Value} (hn : Plain n) (hm : Plain m)
    (hv : evaluate catalogueScope n = .ok v) (hw : evaluate catalogueScope m = .ok w)
    (hj : toWire v = .ok j) (hj' : toWire w = .ok j) : v = w :=
  (hn.expressible hv).wire_inj (hm.expressible hw) hj hj'

theorem eq_of_toWire_eq_pages : ∃ v w,
    evaluate catalogueScope (.call "Paginate" [.literal (.int 2)]) = .ok v ∧
      evaluate catalogueScope (.call "Paginate" [.literal (.int 1),
        .object [("paginate", .literal (.int 2))]]) = .ok w ∧ v = w := by
  have htwo : Plain (.literal (.int 2)) := .literal (.int 2)
  have hpage : Plain (.call "Paginate" [.literal (.int 2)]) := .call _ (by simpa using htwo)
  have hoptions : Plain (.object [("paginate", .literal (.int 2))]) :=
    .object (by simpa using htwo)
  have hmerged : Plain (.call "Paginate" [.literal (.int 1),
      .object [("paginate", .literal (.int 2))]]) :=
    .call _ (by simpa using ⟨.literal (.int 1), hoptions⟩)
  exact ⟨_, _, rfl, rfl, eq_of_toWire_eq hpage hmerged rfl rfl rfl rfl⟩

end QueryShell.Query
