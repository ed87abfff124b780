import Mathlib.Data.List.Nodup
import QueryShell.Proofs.Query.Expressible

namespace QueryShell.Query

open Value (sameKey field?)

def Helper.key (h : Helper) : String :=
  match h.body with
  | .fields [] => ""
  | .fields (f :: _) => f.key
  | .bindings => letKey
  | .page => "paginate"

theorem nodup_keys : (catalogue.map Helper.key).Nodup := by
  decide +kernel

def madeOf (fields : List Field) (rest given : List Value) : List (Value × Value) :=
  fields.filterMap fun f => (f.source.value? rest given).map fun v => (.str f.key, v)

section

variable {f : Field} {rest given : List Value}

theorem madeOf_cons_none (fields : List Field) (h : f.source.value? rest given = none) :
    madeOf (f :: fields) rest given = madeOf fields rest given := by
  simp [madeOf, h]

theorem madeOf_cons_some (fields : List Field) {v : Value}
    (h : f.source.value? rest given = some v) :
    madeOf (f :: fields) rest given = (.str f.key, v) :: madeOf fields rest given := by
  simp [madeOf, h]

end

theorem build_opening {f : Field} {fields : List Field} {rest given : List Value} {required : Nat}
    (hsure : f.source.Sure required) (hcount : required ≤ given.length) :
    ∃ pairs, build (f :: fields) rest given = .expr pairs ∧ Opening (.str f.key) pairs := by
  obtain ⟨v, hv⟩ := hsure.exists_value rest hcount
  exact ⟨_, rfl, v, _, madeOf_cons_some fields hv⟩

theorem bind_opening {bindings body v : Value} (h : bind bindings body = .ok v) :
    ∃ pairs, v = .expr pairs ∧ Opening (.str letKey) pairs := by
  unfold bind at h
  split at h
  · cases h
    exact ⟨_, rfl, _, _, rfl⟩
  · cases h

theorem call_opening {h : Helper} (hh : Opens h) {args : List Value} {v : Value}
    (hcall : h.call args = .ok v) : ∃ pairs, v = .expr pairs ∧ Opening (.str h.key) pairs := by
  obtain ⟨hfits, hbuilds⟩ := builds_of_call hcall
  rw [Helper.key]
  generalize hbody : h.body = shape at hbuilds
  cases hbuilds with
  | fields fields =>
      rw [Opens, hbody] at hh
      cases fields with
      | nil => exact hh.elim
      | cons f fields => exact build_opening hh.1 (required_le_given hfits)
  | bindings _ hbind => exact bind_opening hbind
  | page _ => exact ⟨_, rfl, _, [], rfl⟩
  | options _ hmerged => exact ⟨_, rfl, Opening.merge ⟨_, [], rfl⟩ hmerged⟩

theorem wire_opening {key : Value} {pairs : List (Value × Value)} {j : Value}
    (h : Opening key pairs) (hj : toWire (.expr pairs) = .ok j) :
    ∃ sent, j = .dict sent ∧ Opening key sent := by
  obtain ⟨v, rest, rfl⟩ := h
  obtain ⟨sent, hsent, heq⟩ := bind_ok.1 hj
  obtain ⟨w, hw, hmore⟩ := bind_ok.1 hsent
  obtain ⟨more, -, hcons⟩ := bind_ok.1 hmore
  cases heq
  cases hcons
  exact ⟨_, rfl, w, more, rfl⟩

theorem same_helper {f g : Helper} (hf : f ∈ catalogue) (hg : g ∈ catalogue)
    {args args' : List Value} {v w j : Value} (hv : f.call args = .ok v)
    (hw : g.call args' = .ok w) (hj : toWire v = .ok j) (hj' : toWire w = .ok j) : f = g := by
  obtain ⟨ps, rfl, hps⟩ := call_opening (opens_of_mem f hf) hv
  obtain ⟨qs, rfl, hqs⟩ := call_opening (opens_of_mem g hg) hw
  obtain ⟨sent, rfl, a, rest, hopen⟩ := wire_opening hps hj
  obtain ⟨sent', heq, b, rest', hopen'⟩ := wire_opening hqs hj'
  cases heq
  rw [hopen] at hopen'
  have hkey : f.key = g.key := by
    injection hopen' with hfirst
    injection hfirst with hkeys
    injection hkeys with hsame
    exact Str.of_inj.1 hsame
  exact List.inj_on_of_nodup_map nodup_keys hf hg hkey

def Carried (sent : List (Value × Value)) (key : String) (v : Value) : Prop :=
  ∃ w, toWire v = .ok w ∧ field? sent key = some w

theorem Carried.common {sent : List (Value × Value)} {key : String} {v v' : Value}
    (h : Carried sent key v) (h' : Carried sent key v') :
    ∃ w, toWire v = .ok w ∧ toWire v' = .ok w := by
  obtain ⟨w, hw, hfound⟩ := h
  obtain ⟨w', hw', hfound'⟩ := h'
  cases hfound.symm.trans hfound'
  exact ⟨w, hw, hw'⟩

theorem field?_cons_self (key : String) (w : Value) (sent : List (Value × Value)) :
    field? ((.str key, w) :: sent) key = some w := by
  simp [field?]

theorem field?_cons_of_ne {key other : String} (h : other ≠ key) (w : Value)
    (sent : List (Value × Value)) : field? ((.str other, w) :: sent) key = field? sent key := by
  simp [field?, h]

theorem carried_of_mem {fields : List Field} {rest given : List Value}
    {sent : List (Value × Value)} (hkeys : (fields.map Field.key).Nodup)
    (hsent : fieldsToWire (madeOf fields rest given) = .ok sent) {f : Field} (hf : f ∈ fields)
    {v : Value} (hv : f.source.value? rest given = some v) : Carried sent f.key v := by
  induction fields generalizing sent with
  | nil => cases hf
  | cons g fields ih =>
      obtain ⟨hg, hrest⟩ := List.nodup_cons.1 hkeys
      cases hu : g.source.value? rest given with
      | none =>
          have hin : f ∈ fields := by
            rcases List.mem_cons.1 hf with rfl | hin
            · rw [hu] at hv
              cases hv
            · exact hin
          rw [madeOf_cons_none fields hu] at hsent
          exact ih hrest hsent hin
      | some u =>
          rw [madeOf_cons_some fields hu] at hsent
          obtain ⟨w, hw, hmore⟩ := bind_ok.1 hsent
          obtain ⟨more, hmoreSent, heq⟩ := bind_ok.1 hmore
          cases heq
          rcases List.mem_cons.1 hf with rfl | hin
          · rw [hu] at hv
            cases hv
            exact ⟨w, hw, field?_cons_self f.key w more⟩
          · have hne : g.key ≠ f.key := fun heq => hg (heq ▸ List.mem_map_of_mem hin)
            obtain ⟨x, hx, hfound⟩ := ih hrest hmoreSent hin
            exact ⟨x, hx, by rw [field?_cons_of_ne hne, hfound]⟩

theorem allToWire_eq_ok {vs ws : List Value} :
    allToWire vs = .ok ws ↔ vs.map toWire = ws.map .ok := by
  induction vs generalizing ws with
  | nil =>
      cases ws with
      | nil => simp [allToWire]
      | cons w ws => simp [allToWire]
  | cons v vs ih =>
      constructor
      · intro h
        obtain ⟨w, hw, hrest⟩ := bind_ok.1 h
        obtain ⟨more, hmore, heq⟩ := bind_ok.1 hrest
        cases heq
        rw [List.map_cons, List.map_cons, hw, ih.1 hmore]
      · intro h
        cases ws with
        | nil => cases h
        | cons w ws =>
            obtain ⟨hw, hrest⟩ := List.cons.inj h
            exact bind_ok.2 ⟨w, hw, bind_ok.2 ⟨ws, ih.2 hrest, rfl⟩⟩

section

variable {vs vs' : List Value} {w : Value}

theorem map_toWire_of_list (h : toWire (.list vs) = .ok w) (h' : toWire (.list vs') = .ok w) :
    vs.map toWire = vs'.map toWire := by
  obtain ⟨ws, hws, heq⟩ := bind_ok.1 h
  obtain ⟨ws', hws', heq'⟩ := bind_ok.1 h'
  cases heq
  cases heq'
  rw [allToWire_eq_ok.1 hws, allToWire_eq_ok.1 hws']

theorem map_toWire_of_bundled (hcount : vs.length = vs'.length) (h : toWire (bundled vs) = .ok w)
    (h' : toWire (bundled vs') = .ok w) : vs.map toWire = vs'.map toWire := by
  match vs, vs', hcount with
  | [], [], _ => rfl
  | [v], [v'], _ =>
      have hv : toWire v = .ok w := h
      have hv' : toWire v' = .ok w := h'
      rw [List.map_singleton, List.map_singleton, hv, hv']
  | _ :: _ :: _, _ :: _ :: _, _ => exact map_toWire_of_list h h'

end

def PlacedBy (fields : List Field) (h : Helper) : Prop :=
  (fields.map Field.key).Nodup ∧
    (∀ i < h.parameters.length, ∃ f ∈ fields,
      f.source = .argument i ∨ f.source = .argumentOrNull i) ∧
    (h.variadic = true → ∃ f ∈ fields,
      f.source = .rest ∨ f.source = .restIfAny ∨ f.source = .restArray)

instance (fields : List Field) (h : Helper) : Decidable (PlacedBy fields h) :=
  inferInstanceAs (Decidable (_ ∧ _ ∧ _))

def Places (h : Helper) : Prop :=
  match h.body with
  | .fields fields => PlacedBy fields h
  | _ => h.variadic = false

instance : (h : Helper) → Decidable (Places h)
  | ⟨name, function, required, optional, variadic, .fields fields⟩ =>
      inferInstanceAs (Decidable (PlacedBy fields
        ⟨name, function, required, optional, variadic, .fields fields⟩))
  | ⟨_, _, _, _, variadic, .bindings⟩ | ⟨_, _, _, _, variadic, .page⟩ =>
      inferInstanceAs (Decidable (variadic = false))

theorem places_of_mem : ∀ h ∈ catalogue, Places h := by
  decide +kernel

section

variable {fields : List Field} {given rest given' rest' : List Value}
  {sent : List (Value × Value)}

theorem value?_argument {source : Source} {i : Nat} {a : Value} (rest : List Value)
    (h : source = .argument i ∨ source = .argumentOrNull i) (ha : given[i]? = some a) :
    source.value? rest given = some a := by
  rcases h with rfl | rfl
  · exact ha
  · rw [Source.value?, ha]
    rfl

theorem given_alike {most : Nat} (hkeys : (fields.map Field.key).Nodup)
    (hplaces : ∀ i < most, ∃ f ∈ fields, f.source = .argument i ∨ f.source = .argumentOrNull i)
    (hfew : given.length ≤ most) (hcount : given.length = given'.length)
    (hsent : fieldsToWire (madeOf fields rest given) = .ok sent)
    (hsent' : fieldsToWire (madeOf fields rest' given') = .ok sent) :
    given.map toWire = given'.map toWire := by
  refine List.ext_getElem (by simpa using hcount) fun i hi hi' => ?_
  rw [List.length_map] at hi hi'
  obtain ⟨f, hf, hsource⟩ := hplaces i (Nat.lt_of_lt_of_le hi hfew)
  have ha := value?_argument rest hsource (List.getElem?_eq_getElem hi)
  have ha' := value?_argument rest' hsource (List.getElem?_eq_getElem hi')
  obtain ⟨w, hw, hw'⟩ :=
    (carried_of_mem hkeys hsent hf ha).common (carried_of_mem hkeys hsent' hf ha')
  rw [List.getElem_map, List.getElem_map, hw, hw']

theorem rest_alike (hkeys : (fields.map Field.key).Nodup)
    (hplaces : ∃ f ∈ fields, f.source = .rest ∨ f.source = .restIfAny ∨ f.source = .restArray)
    (hcount : rest.length = rest'.length)
    (hsent : fieldsToWire (madeOf fields rest given) = .ok sent)
    (hsent' : fieldsToWire (madeOf fields rest' given') = .ok sent) :
    rest.map toWire = rest'.map toWire := by
  obtain ⟨f, hf, hsource⟩ := hplaces
  have common : ∀ v v', f.source.value? rest given = some v →
      f.source.value? rest' given' = some v' → ∃ w, toWire v = .ok w ∧ toWire v' = .ok w :=
    fun v v' hv hv' =>
      (carried_of_mem hkeys hsent hf hv).common (carried_of_mem hkeys hsent' hf hv')
  rcases hsource with hs | hs | hs
  · obtain ⟨w, hw, hw'⟩ := common (bundled rest) (bundled rest') (by rw [hs]; rfl) (by rw [hs]; rfl)
    exact map_toWire_of_bundled hcount hw hw'
  · cases rest with
    | nil => rw [List.length_eq_zero_iff.1 hcount.symm]
    | cons a rest =>
        cases rest' with
        | nil => cases hcount
        | cons a' rest' =>
            obtain ⟨w, hw, hw'⟩ := common (bundled (a :: rest)) (bundled (a' :: rest'))
              (by rw [hs]; rfl) (by rw [hs]; rfl)
            exact map_toWire_of_bundled hcount hw hw'
  · obtain ⟨w, hw, hw'⟩ := common (.list rest) (.list rest') (by rw [hs]; rfl) (by rw [hs]; rfl)
    exact map_toWire_of_list hw hw'

end

theorem entriesToWire_congr {pairs pairs' sent : List (Value × Value)}
    (h : fieldsToWire pairs = .ok sent) (h' : fieldsToWire pairs' = .ok sent) :
    entriesToWire pairs = entriesToWire pairs' := by
  induction pairs generalizing pairs' sent with
  | nil =>
      cases h
      cases pairs' with
      | nil => rfl
      | cons p pairs' =>
          obtain ⟨w, -, hrest⟩ := bind_ok.1 h'
          obtain ⟨more, -, heq⟩ := bind_ok.1 hrest
          cases heq
  | cons p pairs ih =>
      obtain ⟨w, hw, hrest⟩ := bind_ok.1 h
      obtain ⟨more, hmore, heq⟩ := bind_ok.1 hrest
      cases heq
      cases pairs' with
      | nil => cases h'
      | cons p' pairs' =>
          obtain ⟨w', hw', hrest'⟩ := bind_ok.1 h'
          obtain ⟨more', hmore', heq'⟩ := bind_ok.1 hrest'
          obtain ⟨key, v⟩ := p
          obtain ⟨key', v'⟩ := p'
          cases heq'
          simp only [entriesToWire]
          rw [hw, hw', ih hmore hmore']

theorem toWire_dict_congr {pairs pairs' sent : List (Value × Value)}
    (h : fieldsToWire pairs = .ok sent) (h' : fieldsToWire pairs' = .ok sent) :
    toWire (.dict pairs) = toWire (.dict pairs') := by
  rw [toWire, toWire, entriesToWire_congr h h']

theorem bindings_alike {bindings bindings' body body' v v' j : Value}
    (hv : bind bindings body = .ok v) (hv' : bind bindings' body' = .ok v')
    (hj : toWire v = .ok j) (hj' : toWire v' = .ok j) :
    toWire bindings = toWire bindings' ∧ toWire body = toWire body' := by
  unfold bind at hv hv'
  split at hv
  · split at hv'
    · cases hv
      cases hv'
      obtain ⟨sent, w, hsent, hw, rfl⟩ := letToWire_eq_ok.1 hj
      obtain ⟨sent', w', hsent', hw', heq⟩ := letToWire_eq_ok.1 hj'
      injection heq with hpairs
      injection hpairs with hlet hin
      injection hlet with _ hlist
      injection hlist with hmap
      injection hin with hbody
      injection hbody with _ hsame
      have hpairs : sent = sent' :=
        (List.map_inj_right fun p q h => by injection h with h; injection h).1 hmap
      rw [← hpairs] at hsent'
      exact ⟨toWire_dict_congr hsent hsent', by rw [hw, hw', hsame]⟩
    · cases hv'
  · cases hv

def DistinctKeys (keys : List Value) : Prop :=
  keys.Pairwise fun k l => sameKey k l = false

inductive PageOptions : Value → Prop where
  | dict {entries : List (Value × Value)} :
      DistinctKeys (.str "paginate" :: entries.map Prod.fst) → PageOptions (.dict entries)

theorem put_of_new {fields : List (Value × Value)} {key : Value} (value : Value)
    (h : ∀ p ∈ fields, sameKey p.1 key = false) :
    Value.put fields key value = fields ++ [(key, value)] := by
  induction fields with
  | nil => rfl
  | cons p fields ih =>
      have hp := h p (by simp)
      rw [Value.put, hp, if_neg (by simp), ih fun q hq => h q (by simp [hq]), List.cons_append]

theorem putAll_of_distinct {fields entries : List (Value × Value)}
    (h : DistinctKeys ((fields ++ entries).map Prod.fst)) :
    Value.putAll fields entries = fields ++ entries := by
  unfold Value.putAll
  induction entries generalizing fields with
  | nil => simp
  | cons e entries ih =>
      have hnew : ∀ p ∈ fields, sameKey p.1 e.1 = false := by
        intro p hp
        rw [DistinctKeys, List.map_append, List.pairwise_append] at h
        exact h.2.2 p.1 (List.mem_map_of_mem hp) e.1 (by simp)
      rw [List.foldl_cons, put_of_new e.2 hnew, ih (by simpa using h), List.append_assoc]
      rfl

theorem merge_dict (fields entries : List (Value × Value)) :
    Value.merge fields (.dict entries) = .ok (Value.putAll fields entries) := by
  cases entries <;> rfl

theorem PageOptions.merge_eq {options : Value} (h : PageOptions options) (page : Value) :
    ∃ entries, options = .dict entries ∧
      Value.merge [(.str "paginate", page)] options = .ok ((.str "paginate", page) :: entries) := by
  obtain @⟨entries, hkeys⟩ := h
  have hdistinct : DistinctKeys (([(Value.str "paginate", page)] ++ entries).map Prod.fst) := hkeys
  exact ⟨entries, rfl, by rw [merge_dict, putAll_of_distinct hdistinct]; rfl⟩

section

variable {page page' options options' j : Value} {merged merged' : List (Value × Value)}

theorem options_alike (hoptions : PageOptions options) (hoptions' : PageOptions options')
    (hmerged : Value.merge [(.str "paginate", page)] options = .ok merged)
    (hmerged' : Value.merge [(.str "paginate", page')] options' = .ok merged')
    (hj : toWire (.expr merged) = .ok j) (hj' : toWire (.expr merged') = .ok j) :
    toWire page = toWire page' ∧ toWire options = toWire options' := by
  obtain ⟨entries, rfl, heq⟩ := hoptions.merge_eq page
  obtain ⟨entries', rfl, heq'⟩ := hoptions'.merge_eq page'
  cases hmerged.symm.trans heq
  cases hmerged'.symm.trans heq'
  obtain ⟨sent, hsent, hdict⟩ := bind_ok.1 hj
  obtain ⟨sent', hsent', hdict'⟩ := bind_ok.1 hj'
  cases hdict
  cases hdict'
  obtain ⟨w, hw, hmore⟩ := bind_ok.1 hsent
  obtain ⟨w', hw', hmore'⟩ := bind_ok.1 hsent'
  obtain ⟨more, hentries, hcons⟩ := bind_ok.1 hmore
  obtain ⟨more', hentries', hcons'⟩ := bind_ok.1 hmore'
  cases hcons
  cases hcons'
  exact ⟨hw.trans hw'.symm, toWire_dict_congr hentries hentries'⟩

theorem page_alike (hj : toWire (.expr [(.str "paginate", page)]) = .ok j)
    (hj' : toWire (.expr [(.str "paginate", page')]) = .ok j) : toWire page = toWire page' := by
  obtain ⟨w, hw, rfl⟩ := toWire_binding.1 hj
  obtain ⟨w', hw', heq⟩ := toWire_binding.1 hj'
  cases heq
  exact hw.trans hw'.symm

end

section

variable {h : Helper} {args args' : List Value} {v v' j : Value}

theorem alike_of_fields {fields : List Field} (hplaces : Places h)
    (hbody : h.body = .fields fields) (hv : h.call args = .ok v) (hv' : h.call args' = .ok v')
    (hj : toWire v = .ok j) (hj' : toWire v' = .ok j) (hcount : args.length = args'.length) :
    args.map toWire = args'.map toWire := by
  obtain ⟨hfits, hbuilds⟩ := builds_of_call hv
  obtain ⟨hfits', hbuilds'⟩ := builds_of_call hv'
  rw [hbody] at hbuilds hbuilds'
  cases hbuilds
  cases hbuilds'
  obtain ⟨sent, hsent, heq⟩ := bind_ok.1 hj
  obtain ⟨sent', hsent', heq'⟩ := bind_ok.1 hj'
  cases heq
  cases heq'
  rw [Places, hbody] at hplaces
  obtain ⟨hkeys, harguments, hmore⟩ := hplaces
  have hgiven :=
    given_alike hkeys harguments (List.length_take_le ..) (by simp [hcount]) hsent hsent'
  have hrest : (args.drop h.parameters.length).map toWire =
      (args'.drop h.parameters.length).map toWire := by
    cases hvariadic : h.variadic with
    | true => exact rest_alike hkeys (hmore hvariadic) (by simp [hcount]) hsent hsent'
    | false =>
        rw [List.drop_eq_nil_of_le (le_parameters hfits hvariadic),
          List.drop_eq_nil_of_le (le_parameters hfits' hvariadic)]
  rw [← List.take_append_drop h.parameters.length args, List.map_append, hgiven, hrest,
    ← List.map_append, List.take_append_drop]

theorem builds_of_fixed (hfixed : h.variadic = false) (hcall : h.call args = .ok v) :
    Builds args [] h.body v := by
  obtain ⟨hfits, hbuilds⟩ := builds_of_call hcall
  have hfew := le_parameters hfits hfixed
  rwa [List.take_of_length_le hfew, List.drop_eq_nil_of_le hfew] at hbuilds

theorem alike_of_bindings (hfixed : h.variadic = false) (hbody : h.body = .bindings)
    (hv : h.call args = .ok v) (hv' : h.call args' = .ok v') (hj : toWire v = .ok j)
    (hj' : toWire v' = .ok j) : args.map toWire = args'.map toWire := by
  have hbuilds := builds_of_fixed hfixed hv
  have hbuilds' := builds_of_fixed hfixed hv'
  rw [hbody] at hbuilds hbuilds'
  cases hbuilds with
  | bindings hgot hbind =>
      cases hbuilds' with
      | bindings hgot' hbind' =>
          obtain ⟨hbindings, hin⟩ := bindings_alike hbind hbind' hj hj'
          simp only [hgot, hgot', List.map_cons, List.map_nil, hbindings, hin]

def PlainlyPaged (h : Helper) (args : List Value) : Prop :=
  h.body = .page → ∀ page options, args = [page, options] → PageOptions options

theorem alike_of_page (hfixed : h.variadic = false) (hbody : h.body = .page)
    (hplain : PlainlyPaged h args) (hplain' : PlainlyPaged h args')
    (hv : h.call args = .ok v) (hv' : h.call args' = .ok v') (hj : toWire v = .ok j)
    (hj' : toWire v' = .ok j) (hcount : args.length = args'.length) :
    args.map toWire = args'.map toWire := by
  have hbuilds := builds_of_fixed hfixed hv
  have hbuilds' := builds_of_fixed hfixed hv'
  rw [hbody] at hbuilds hbuilds'
  cases hbuilds with
  | page hgot =>
      cases hbuilds' with
      | page hgot' => simp only [hgot, hgot', List.map_cons, List.map_nil, page_alike hj hj']
      | options hgot' _ =>
          rw [hgot, hgot'] at hcount
          cases hcount
  | options hgot hmerged =>
      cases hbuilds' with
      | page hgot' =>
          rw [hgot, hgot'] at hcount
          cases hcount
      | options hgot' hmerged' =>
          have hoptions := hplain hbody _ _ hgot
          have hoptions' := hplain' hbody _ _ hgot'
          obtain ⟨hpage, hsame⟩ := options_alike hoptions hoptions' hmerged hmerged' hj hj'
          simp only [hgot, hgot', List.map_cons, List.map_nil, hpage, hsame]

theorem wires_alike (hplaces : Places h) (hplain : PlainlyPaged h args)
    (hplain' : PlainlyPaged h args') (hv : h.call args = .ok v) (hv' : h.call args' = .ok v')
    (hj : toWire v = .ok j) (hj' : toWire v' = .ok j) (hcount : args.length = args'.length) :
    args.map toWire = args'.map toWire := by
  cases hbody : h.body with
  | fields fields => exact alike_of_fields hplaces hbody hv hv' hj hj' hcount
  | bindings =>
      rw [Places, hbody] at hplaces
      exact alike_of_bindings hplaces hbody hv hv' hj hj'
  | page =>
      rw [Places, hbody] at hplaces
      exact alike_of_page hplaces hbody hplain hplain' hv hv' hj hj' hcount

end

theorem call_told_by_wire {f g : Helper} (hf : f ∈ catalogue) (hg : g ∈ catalogue)
    {args args' : List Value} {v w j : Value} (hv : f.call args = .ok v)
    (hw : g.call args' = .ok w) (hj : toWire v = .ok j) (hj' : toWire w = .ok j) :
    f = g ∧ (args.length = args'.length → PlainlyPaged f args → PlainlyPaged g args' →
      args.map toWire = args'.map toWire) := by
  obtain rfl := same_helper hf hg hv hw hj hj'
  exact ⟨rfl, fun hcount hplain hplain' =>
    wires_alike (places_of_mem f hf) hplain hplain' hv hw hj hj' hcount⟩

def paginate : Helper :=
  ⟨"Paginate", "paginate", ["set_expr"], ["opts"], false, .page⟩

def pagedList : List Value :=
  [.list [.int 1], .dict [(.str "size", .int 0)]]

def pagedTuple : List Value :=
  [.tuple [.int 1], .dict [(.str "size", .int 0)]]

theorem call_told_by_wire_pages :
    paginate ∈ catalogue ∧ PlainlyPaged paginate pagedList ∧ PlainlyPaged paginate pagedTuple ∧
      (∃ v w j, paginate.call pagedList = .ok v ∧ paginate.call pagedTuple = .ok w ∧
        toWire v = .ok j ∧ toWire w = .ok j) ∧
      pagedList.map toWire = pagedTuple.map toWire := by
  have hmem : paginate ∈ catalogue := by decide +kernel
  have hoptions : PageOptions (.dict [(.str "size", .int 0)]) := by
    refine .dict (.cons (fun key hkey => ?_) (.cons (by simp) .nil))
    rw [List.mem_singleton.1 hkey]
    rfl
  have hlist : PlainlyPaged paginate pagedList := by
    rintro - page options heq
    cases heq
    exact hoptions
  have htuple : PlainlyPaged paginate pagedTuple := by
    rintro - page options heq
    cases heq
    exact hoptions
  obtain ⟨v, w, j, hv, hw, hj, hj'⟩ : ∃ v w j, paginate.call pagedList = .ok v ∧
      paginate.call pagedTuple = .ok w ∧ toWire v = .ok j ∧ toWire w = .ok j :=
    ⟨_, _, _, rfl, rfl, rfl, rfl⟩
  have htold := call_told_by_wire hmem hmem hv hw hj hj'
  exact ⟨hmem, hlist, htuple, ⟨v, w, j, hv, hw, hj, hj'⟩, htold.2 rfl hlist htuple⟩

end QueryShell.Query
