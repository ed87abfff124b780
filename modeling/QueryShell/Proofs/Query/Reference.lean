import QueryShell.Proofs.Computation
import QueryShell.Proofs.Render.Reference
import QueryShell.Proofs.Value.TextKeys
import QueryShell.Query.Evaluation

namespace QueryShell.Query

open Statement (CharacterNames Denotes DenotesAll Form Node read)
open Value (AtTop Placed Proper Quotable Spelled quotable_plain quotedId schemaHelpers topHelper)

def listedKinds : List String :=
  ["collections", "databases", "indexes", "functions", "roles", "keys", "tokens"]

def namedKinds : List String :=
  ["collections", "databases", "indexes", "functions", "roles"]

inductive Callable : Value → Prop where
  | nowhere : Callable .null
  | top {name : Str} {database : Value} : name ∈ listedKinds.map Str.of → Callable database →
      Callable (.ref (.str name) .null database)
  | schema {id name : Str} {hidden database : Value} : name ∈ namedKinds.map Str.of →
      Callable database → Callable (.ref (.str id) (.ref (.str name) .null hidden) database)
  | document {id : Str} {inner parent place : Value} : parent ≠ .null →
      Callable (.ref inner parent place) → Callable (.ref (.str id) (.ref inner parent place) .null)

def helper? (name : String) : Option Helper :=
  (catalogue.map fun h => (h.name, h)).lookup name

def accepts (name : String) (count : Nat) : Bool :=
  match helper? name with
  | some h => (h.body matches .fields _) && (h.mismatch? count).isNone
  | none => false

def refuses (name : String) (count : Nat) : Bool :=
  match helper? name with
  | some h => (h.mismatch? count).isSome
  | none => true

theorem lookup_catalogueScope (name : String) :
    catalogueScope.lookup name = (helper? name).map .helper := by
  rw [helper?, ← Value.lookup_map, List.map_map]
  rfl

theorem topHelpers : ∀ p ∈ schemaHelpers, ∀ count < 2,
    (if listedKinds.contains p.1 then accepts (topHelper p.1) count
      else refuses (topHelper p.1) count) = true := by
  decide +kernel

theorem schemaCalls : ∀ p ∈ schemaHelpers, ∀ count < 2,
    (if namedKinds.contains p.1 then accepts p.2 (count + 1)
      else refuses p.2 (count + 1)) = true := by
  decide +kernel

theorem documentCalls : accepts "Ref" 2 = true ∧ refuses "Ref" 3 = true := by
  decide +kernel

section

variable {name : String} {nodes : List Node}

theorem length_of_evaluateAll {scope : Scope} {values : List Value}
    (h : evaluateAll scope nodes = .ok values) : values.length = nodes.length := by
  induction nodes generalizing values with
  | nil =>
      cases h
      rfl
  | cons node nodes ih =>
      obtain ⟨v, -, hrest⟩ := bind_ok.1 h
      obtain ⟨vs, hvs, heq⟩ := bind_ok.1 hrest
      cases heq
      rw [List.length_cons, List.length_cons, ih hvs]

theorem lookupHelper_some {h : Helper} (hhelper : helper? name = some h) :
    lookupHelper catalogueScope name = .ok h := by
  rw [lookupHelper, lookup, lookup_catalogueScope, hhelper]
  rfl

theorem evaluate_call {h : Helper} (hhelper : helper? name = some h) :
    evaluate catalogueScope (.call name nodes) =
      evaluateAll catalogueScope nodes >>= callHelper name h := by
  rw [evaluate, lookupHelper_some hhelper]
  rfl

theorem returns_call_of_accepts (h : accepts name nodes.length = true) :
    Returns (evaluate catalogueScope (.call name nodes)) ↔
      Returns (evaluateAll catalogueScope nodes) := by
  unfold accepts at h
  split at h
  · next helper hhelper =>
    rw [evaluate_call hhelper]
    simp only [Bool.and_eq_true, Option.isNone_iff_eq_none] at h
    obtain ⟨hbody, hfits⟩ := h
    constructor
    · rintro ⟨v, hv⟩
      obtain ⟨values, hvalues, -⟩ := bind_ok.1 hv
      exact ⟨values, hvalues⟩
    · rintro ⟨values, hvalues⟩
      have hcall : ∃ v, helper.call values = .ok v := by
        unfold Helper.call
        rw [length_of_evaluateAll hvalues, hfits]
        cases hfields : helper.body with
        | fields fields => exact ⟨_, rfl⟩
        | bindings => simp [hfields] at hbody
        | page => simp [hfields] at hbody
      obtain ⟨v, hv⟩ := hcall
      exact ⟨v, bind_ok.2 ⟨values, hvalues, by rw [callHelper, hv]⟩⟩
  · cases h

theorem not_returns_call_of_refuses (h : refuses name nodes.length = true) :
    ¬ Returns (evaluate catalogueScope (.call name nodes)) := by
  rintro ⟨v, hv⟩
  unfold refuses at h
  split at h
  · next helper hhelper =>
    rw [evaluate_call hhelper] at hv
    obtain ⟨values, hvalues, hcall⟩ := bind_ok.1 hv
    obtain ⟨how, hhow⟩ := Option.isSome_iff_exists.1 h
    rw [← length_of_evaluateAll hvalues] at hhow
    rw [callHelper, Helper.call, hhow] at hcall
    cases hcall
  · next hnone =>
    rw [evaluate, lookupHelper, lookup, lookup_catalogueScope, hnone] at hv
    cases hv

theorem returns_call_iff {known : Bool} {P Q : Prop} (hcalls : (if known then
      accepts name nodes.length else refuses name nodes.length) = true)
    (hnodes : Returns (evaluateAll catalogueScope nodes) ↔ P) (hQ : Q ↔ known = true ∧ P) :
    Returns (evaluate catalogueScope (.call name nodes)) ↔ Q := by
  cases known with
  | true => simp [returns_call_of_accepts hcalls, hnodes, hQ]
  | false => simp [not_returns_call_of_refuses hcalls, hQ]

theorem returns_evaluateAll_cons {scope : Scope} {node : Node} :
    Returns (evaluateAll scope (node :: nodes)) ↔
      Returns (evaluate scope node) ∧ Returns (evaluateAll scope nodes) :=
  returns_map₂

theorem returns_evaluateAll_one {scope : Scope} {node : Node} :
    Returns (evaluateAll scope [node]) ↔ Returns (evaluate scope node) := by
  rw [returns_evaluateAll_cons, and_iff_left ⟨[], rfl⟩]

theorem returns_literal {scope : Scope} (v : Value) : Returns (evaluate scope (.literal v)) :=
  ⟨v, rfl⟩

end

section

variable {id : Str} {name helper : String} {hidden database : Value}
  {node : Node} {nodes : List Node}

theorem mem_map_of {kinds : List String} : Str.of name ∈ kinds.map Str.of ↔ name ∈ kinds :=
  List.mem_map_of_injective fun _ _ => Str.of_inj.1

theorem callable_top :
    Callable (.ref (.str name) .null database) ↔ name ∈ listedKinds ∧ Callable database := by
  constructor
  · intro h
    cases h with
    | top hname hdatabase => exact ⟨mem_map_of.1 hname, hdatabase⟩
  · rintro ⟨hname, hdatabase⟩
    exact .top (mem_map_of.2 hname) hdatabase

theorem callable_schema : Callable (.ref (.str id) (.ref (.str name) .null hidden) database) ↔
    name ∈ namedKinds ∧ Callable database := by
  constructor
  · intro h
    cases h with
    | schema hname hdatabase => exact ⟨mem_map_of.1 hname, hdatabase⟩
    | document hparent => exact absurd rfl hparent
  · rintro ⟨hname, hdatabase⟩
    exact .schema (mem_map_of.2 hname) hdatabase

theorem callable_document {collection : Value} (htop : ¬ AtTop collection)
    (hcollection : ∃ inner parent place, collection = .ref inner parent place) :
    Callable (.ref (.str id) collection database) ↔ database = .null ∧ Callable collection := by
  obtain ⟨inner, parent, place, rfl⟩ := hcollection
  have hparent : parent ≠ .null := by
    rintro rfl
    exact htop ⟨_, _, rfl⟩
  constructor
  · intro h
    cases h with
    | schema => exact absurd rfl hparent
    | document _ h => exact ⟨rfl, h⟩
  · rintro ⟨rfl, h⟩
    exact .document hparent h

theorem returns_top (hname : (name, helper) ∈ schemaHelpers) (hcount : nodes.length < 2)
    (hdatabase : Returns (evaluateAll catalogueScope nodes) ↔ Callable database) :
    Returns (evaluate catalogueScope (.call (topHelper name) nodes)) ↔
      Callable (.ref (.str name) .null database) := by
  refine returns_call_iff (topHelpers (name, helper) hname nodes.length hcount) hdatabase ?_
  rw [callable_top, List.contains_iff_mem]

theorem returns_schema {s : Str} (hname : (name, helper) ∈ schemaHelpers)
    (hcount : nodes.length < 2)
    (hdatabase : Returns (evaluateAll catalogueScope nodes) ↔ Callable database) :
    Returns (evaluate catalogueScope (.call helper (.literal (.str s) :: nodes))) ↔
      Callable (.ref (.str id) (.ref (.str name) .null hidden) database) := by
  have hargs : Returns (evaluateAll catalogueScope (.literal (.str s) :: nodes)) ↔
      Callable database := by
    rw [returns_evaluateAll_cons, hdatabase, and_iff_right (returns_literal _)]
  refine returns_call_iff (schemaCalls (name, helper) hname nodes.length hcount) hargs ?_
  rw [callable_schema, List.contains_iff_mem]

theorem returns_document {collection : Value} {s : Str} (htop : ¬ AtTop collection)
    (hisRef : ∃ inner parent place, collection = .ref inner parent place)
    (hcollection : Returns (evaluate catalogueScope node) ↔ Callable collection)
    (hempty : nodes = [] ↔ database = .null) (hcount : nodes.length < 2) :
    Returns (evaluate catalogueScope (.call "Ref" (node :: .literal (.str s) :: nodes))) ↔
      Callable (.ref (.str id) collection database) := by
  rw [callable_document htop hisRef]
  cases nodes with
  | nil =>
      rw [returns_call_of_accepts documentCalls.1, returns_evaluateAll_cons,
        returns_evaluateAll_cons, hcollection]
      simp [hempty.1 rfl, returns_literal, evaluateAll, returns_ok]
  | cons more nodes =>
      have hnil : nodes = [] := by
        rw [← List.length_eq_zero_iff]
        simpa using hcount
      subst hnil
      have hdatabase : database ≠ .null := fun h => by simp [← hempty] at h
      refine iff_of_false (not_returns_call_of_refuses documentCalls.2) ?_
      exact fun h => hdatabase h.1

end

section

variable [CharacterNames]

theorem Quotable.denotes {id : Str} {text : List Char} (h : Quotable id)
    (hid : id = Str.ofChars text) :
    ∃ s, Denotes (.string (quotedId text)) (.literal (.str s)) := by
  obtain ⟨text', hid', -, s, hs⟩ := h
  obtain rfl := Str.ofChars_inj.1 (hid.symm.trans hid')
  exact ⟨s, .string hs⟩

theorem length_of_denotesAll {forms : List Form} {nodes : List Node}
    (h : DenotesAll forms nodes) : nodes.length = forms.length := by
  cases h with
  | nil => rfl
  | cons _ hrest => rw [List.length_cons, List.length_cons, length_of_denotesAll hrest]

theorem count_of_spelled {v : Value} {forms : List Form} {nodes : List Node} (h : Spelled v forms)
    (hnodes : DenotesAll forms nodes) : nodes.length < 2 ∧ (nodes = [] ↔ v = .null) := by
  have hlength := length_of_denotesAll hnodes
  constructor
  · rw [hlength]
    exact h.length_lt
  · rw [← h.eq_nil, ← List.length_eq_zero_iff, hlength, List.length_eq_zero_iff]

theorem exists_denoted {v : Value} {forms : List Form} (h : Spelled v forms)
    (hids : ∀ id ∈ v.visible.ids, Quotable id) :
    ∃ nodes, DenotesAll forms nodes ∧
      (Returns (evaluateAll catalogueScope nodes) ↔ Callable v) := by
  induction h with
  | nowhere => exact ⟨[], .nil, iff_of_true (returns_ok []) .nowhere⟩
  | top hid hname hspelled ih =>
      obtain ⟨-, -, hdatabase⟩ := Value.forall_ids.1 hids
      obtain ⟨nodes, hnodes, hiff⟩ := ih hdatabase
      obtain ⟨hcount, -⟩ := count_of_spelled hspelled hnodes
      refine ⟨_, .cons (.call hnodes) .nil, ?_⟩
      rw [hid, String.ofList_toList, returns_evaluateAll_one, returns_top hname hcount hiff]
  | schema hid hparent hname hspelled ih =>
      obtain ⟨hquotable, -, hdatabase⟩ := Value.forall_ids.1 hids
      obtain ⟨nodes, hnodes, hiff⟩ := ih hdatabase
      obtain ⟨hcount, -⟩ := count_of_spelled hspelled hnodes
      obtain ⟨s, hs⟩ := Quotable.denotes hquotable hid
      refine ⟨_, .cons (.call (.cons hs hnodes)) .nil, ?_⟩
      rw [hparent, String.ofList_toList, returns_evaluateAll_one,
        returns_schema hname hcount hiff]
  | document hid htop hspelled hspelled' ihcollection ih =>
      obtain ⟨hquotable, hcollection, hdatabase⟩ := Value.forall_ids.1 hids
      rw [Value.hideDatabase_eq (mt Value.atTop_visible.1 htop)] at hcollection
      obtain ⟨nodes, hnodes, -⟩ := ih hdatabase
      obtain ⟨hcount, hempty⟩ := count_of_spelled hspelled' hnodes
      obtain ⟨above, habove, hiff⟩ := ihcollection hcollection
      cases habove with
      | cons hnode hnil =>
          cases hnil
          rw [returns_evaluateAll_one] at hiff
          obtain ⟨s, hs⟩ := Quotable.denotes hquotable hid
          refine ⟨_, .cons (.call (.cons hnode (.cons hs hnodes))) .nil, ?_⟩
          rw [returns_evaluateAll_one]
          exact returns_document htop hspelled.isRef hiff hempty hcount

theorem inspect_reads {v : Value} (hv : Proper v) (hids : ∀ id ∈ v.visible.ids, Quotable id) :
    ∃ (text : String) (node : Node), v.inspect = .ok text ∧ read text.toList = .parsed [node] ∧
      (Returns (evaluate catalogueScope node) ↔ Callable v) ∧
      ∀ w, Proper w → (∀ id ∈ w.visible.ids, Quotable id) →
        (w.inspect = .ok text ↔ w.visible = v.visible) := by
  obtain ⟨form, hform⟩ := hv.spelled hids
  obtain ⟨text, htext, hprinted⟩ := (hform.told hids).printed
  obtain ⟨nodes, hnodes, hreturns⟩ := exists_denoted hform hids
  cases hnodes with
  | cons hnode hnil =>
      cases hnil
      rw [returns_evaluateAll_one] at hreturns
      refine ⟨String.ofList text, _, ?_, ?_, hreturns, fun w hw hids' => ?_⟩
      · rw [htext, Str.of_ofList]
      · rw [String.toList_ofList]
        exact hprinted.read_eq hnode
      obtain ⟨form', hform'⟩ := hw.spelled hids'
      obtain ⟨text', htext', hprinted'⟩ := (hform'.told hids').printed
      rw [← hform'.eq_iff hform, htext', Str.of_ofList, Except.ok.injEq, Str.ofChars_inj]
      constructor
      · rintro rfl
        rw [hprinted'.form_unique hprinted]
      · intro heq
        cases heq
        exact hprinted'.text_unique hprinted

end

def appDatabase : Value :=
  .ref (.str "app") (.ref (.str "databases") .null .null) .null

def firstUser : Value :=
  .ref (.str "1") (.ref (.str "users") (.ref (.str "collections") .null .null) appDatabase) .null

theorem placed_appDatabase : Placed appDatabase :=
  .database .nowhere .nowhere

theorem inspect_reads_firstUser :
    Proper firstUser ∧ (∀ id ∈ firstUser.visible.ids, Quotable id) ∧ Callable firstUser ∧
      firstUser.inspect = .ok "Ref(Collection(\"users\", Database(\"app\")), \"1\")" ∧
      ∃ node, read "Ref(Collection(\"users\", Database(\"app\")), \"1\")".toList = .parsed [node] ∧
        Returns (evaluate catalogueScope node) := by
  have hcollections : ("collections", "Collection") ∈ schemaHelpers := by decide
  have hproper : Proper firstUser :=
    .within (.within (.top hcollections .nowhere) placed_appDatabase) .nowhere
  have hshown : firstUser.visible.ids =
      ["1", "users", "collections", "app", "databases"].map Str.of := rfl
  have hplain : ∀ id ∈ ["1", "users", "collections", "app", "databases"],
      id.toList.all Value.isPlain = true := by decide
  have hids : ∀ id ∈ firstUser.visible.ids, Quotable id := by
    rw [hshown, List.forall_mem_map]
    exact fun id hid => quotable_plain (hplain id hid)
  have hcallable : Callable firstUser :=
    .document nofun (.schema (by decide) (.schema (by decide) .nowhere))
  have htext : firstUser.inspect =
      .ok "Ref(Collection(\"users\", Database(\"app\")), \"1\")" := by
    decide +kernel
  obtain ⟨text, node, hinspect, hread, hreturns, -⟩ := inspect_reads hproper hids
  obtain rfl := Str.of_inj.1 (Except.ok.inj (hinspect.symm.trans htext))
  exact ⟨hproper, hids, hcallable, htext, node, hread, hreturns.2 hcallable⟩

def brokenCollection : Value :=
  .ref (.str "a\"b") (.ref (.str "collections") .null .null) .null

/-- A quotation mark in an id ends the string in which it stands. -/
theorem inspect_brokenCollection :
    Proper brokenCollection ∧ brokenCollection.inspect = .ok "Collection(\"a\"b\")" ∧
      ∀ nodes, read "Collection(\"a\"b\")".toList ≠ .parsed nodes := by
  have hcollections : ("collections", "Collection") ∈ schemaHelpers := by decide
  have hbad : ¬ ∃ nodes, read "Collection(\"a\"b\")".toList = .parsed nodes := by
    decide +kernel
  exact ⟨.within (.top hcollections .nowhere) .nowhere, by decide +kernel,
    fun nodes h => hbad ⟨nodes, h⟩⟩

end QueryShell.Query
