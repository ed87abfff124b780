import QueryShell.Proofs.Render.Keywords
import QueryShell.Proofs.Statement.Pieces
import QueryShell.Proofs.Statement.Printed
import Mathlib.Data.List.Nodup

namespace QueryShell.Value

open Render (refText_document refText_orphan refText_schema scopeText)
open Statement (CharacterNames DenotesString Form Printed PrintedAll StringRest Token exists_pieces
  quoteChar)

inductive Placed : Value → Prop where
  | nowhere : Placed .null
  | database {id : Str} {hidden outer : Value} : Placed hidden → Placed outer →
      Placed (.ref (.str id) (.ref (.str "databases") .null hidden) outer)

inductive Proper : Value → Prop where
  | top {name helper : String} {database : Value} : (name, helper) ∈ schemaHelpers →
      Placed database → Proper (.ref (.str name) .null database)
  | within {id : Str} {collection database : Value} : Proper collection → Placed database →
      Proper (.ref (.str id) collection database)

def AtTop (v : Value) : Prop :=
  ∃ id database, v = .ref id .null database

def hideDatabase : Value → Value
  | .ref id .null _ => .ref id .null .null
  | v => v

def visible : Value → Value
  | .ref id collection database => .ref id (hideDatabase (visible collection)) (visible database)
  | v => v

def ids : Value → List Str
  | .ref (.str id) collection database => id :: (ids collection ++ ids database)
  | _ => []

def quotedId (id : List Char) : List Char :=
  '"' :: (id ++ ['"'])

def topHelper (name : String) : String :=
  String.ofList ((Text.splitAt '_' name.toList).flatMap Text.title)

theorem collectionHelper_of (name : String) :
    collectionHelper (Str.of name) = Str.of (topHelper name) := by
  rw [topHelper, Str.of_ofList]
  exact Str.mapRuns_ofChars _ _

inductive Spelled : Value → List Form → Prop where
  | nowhere : Spelled .null []
  | top {id : Str} {name helper : String} {database : Value} {args : List Form} :
      id = Str.of name → (name, helper) ∈ schemaHelpers → Spelled database args →
      Spelled (.ref (.str id) .null database) [.call (topHelper name).toList args]
  | schema {id parent : Str} {text : List Char} {name helper : String} {hidden database : Value}
      {args : List Form} : id = Str.ofChars text → parent = Str.of name →
      (name, helper) ∈ schemaHelpers → Spelled database args →
      Spelled (.ref (.str id) (.ref (.str parent) .null hidden) database)
        [.call helper.toList (.string (quotedId text) :: args)]
  | document {id : Str} {text : List Char} {collection database : Value} {form : Form}
      {args : List Form} : id = Str.ofChars text → ¬ AtTop collection →
      Spelled collection [form] → Spelled database args →
      Spelled (.ref (.str id) collection database)
        [.call ['R', 'e', 'f'] (form :: .string (quotedId text) :: args)]

theorem topHelpers_eq :
    schemaHelpers.map (fun p => topHelper p.1) =
      ["Collections", "Databases", "Indexes", "Functions", "Roles", "Keys", "Tokens",
        "Credentials", "AccessProviders"] := by
  decide +kernel

theorem topHelper_inj {name helper name' helper' : String}
    (h : (name, helper) ∈ schemaHelpers) (h' : (name', helper') ∈ schemaHelpers)
    (heq : topHelper name = topHelper name') : name = name' := by
  have hnodup : (schemaHelpers.map fun p => topHelper p.1).Nodup := by
    rw [topHelpers_eq]
    decide
  exact congrArg Prod.fst (List.inj_on_of_nodup_map hnodup h h' heq)

theorem schemaHelper_inj {name name' helper : String} (h : (name, helper) ∈ schemaHelpers)
    (h' : (name', helper) ∈ schemaHelpers) : name = name' := by
  have hnodup : (schemaHelpers.map Prod.snd).Nodup := by decide
  exact congrArg Prod.fst (List.inj_on_of_nodup_map hnodup h h' rfl)

theorem schemaHelper_unique {name helper helper' : String} (h : (name, helper) ∈ schemaHelpers)
    (h' : (name, helper') ∈ schemaHelpers) : helper = helper' := by
  have hnodup : (schemaHelpers.map Prod.fst).Nodup := by decide
  exact congrArg Prod.snd (List.inj_on_of_nodup_map hnodup h h' rfl)

theorem quotedId_inj {text text' : List Char} (h : quotedId text = quotedId text') :
    text = text' := by
  simpa [quotedId] using h

theorem call_inj {name name' : List Char} {args args' : List Form}
    (h : [Form.call name args] = [Form.call name' args']) : name = name' ∧ args = args' := by
  cases h
  exact ⟨rfl, rfl⟩

theorem Spelled.calls {v : Value} {forms : List Form} (h : Spelled v forms) :
    forms = [] ∨ ∃ name args, forms = [.call name args] := by
  cases h with
  | nowhere => exact .inl rfl
  | _ => exact .inr ⟨_, _, rfl⟩

theorem Spelled.length_lt {v : Value} {forms : List Form} (h : Spelled v forms) :
    forms.length < 2 := by
  rcases h.calls with rfl | ⟨name, args, rfl⟩
  · decide
  · exact Nat.lt_succ_self 1

theorem Spelled.eq_nil {v : Value} {forms : List Form} (h : Spelled v forms) :
    forms = [] ↔ v = .null := by
  cases h with
  | nowhere => exact iff_of_true rfl rfl
  | _ => exact iff_of_false (List.cons_ne_nil _ _) (by simp)

theorem Spelled.isRef {v : Value} {form : Form} (h : Spelled v [form]) :
    ∃ id collection database, v = .ref id collection database := by
  cases h with
  | _ => exact ⟨_, _, _, rfl⟩

theorem Spelled.ne_string {v : Value} {forms : List Form} (h : Spelled v forms) (text : List Char)
    (more : List Form) : forms ≠ .string text :: more := by
  rcases h.calls with rfl | ⟨name, args, rfl⟩
  · simp
  · simp

theorem Spelled.ne_two {v : Value} {forms : List Form} (h : Spelled v forms) (first next : Form)
    (more : List Form) : forms ≠ first :: next :: more := by
  rcases h.calls with rfl | ⟨name, args, rfl⟩
  · simp
  · simp

theorem Spelled.visible_eq {v w : Value} {forms forms' : List Form} (hv : Spelled v forms)
    (hw : Spelled w forms') (heq : forms = forms') : v.visible = w.visible := by
  induction hv generalizing w forms' with
  | nowhere =>
      cases hw with
      | nowhere => rfl
      | _ => cases heq
  | top hid hname hdatabase ih =>
      cases hw with
      | nowhere => cases heq
      | top hid' hname' hdatabase' =>
          obtain ⟨hhelper, hargs⟩ := call_inj heq
          have hsame := topHelper_inj hname hname' (String.toList_inj.1 hhelper)
          simp only [visible, hideDatabase, hid, hid', hsame, ih hdatabase' hargs]
      | schema _ _ hname' hdatabase' => exact absurd (call_inj heq).2 (hdatabase.ne_string _ _)
      | document _ _ _ hdatabase' => exact absurd (call_inj heq).2 (hdatabase.ne_two _ _ _)
  | schema hid hparent hname hdatabase ih =>
      cases hw with
      | nowhere => cases heq
      | top _ hname' hdatabase' => exact absurd (call_inj heq).2.symm (hdatabase'.ne_string _ _)
      | schema hid' hparent' hname' hdatabase' =>
          obtain ⟨hhelper, hargs⟩ := call_inj heq
          obtain ⟨htext, hargs⟩ := List.cons.inj hargs
          obtain rfl := String.toList_inj.1 hhelper
          have hsame := schemaHelper_inj hname hname'
          simp only [visible, hideDatabase, hid, hid', hparent, hparent', hsame,
            quotedId_inj (Form.string.inj htext), ih hdatabase' hargs]
      | document _ _ hcollection' hdatabase' =>
          have hform := (List.cons.inj (call_inj heq).2).1
          exact absurd (congrArg (fun f => [f]) hform.symm) (hcollection'.ne_string _ _)
  | document hid _ hcollection hdatabase ihcollection ih =>
      cases hw with
      | nowhere => cases heq
      | top _ hname' hdatabase' => exact absurd (call_inj heq).2.symm (hdatabase'.ne_two _ _ _)
      | schema _ _ hname' hdatabase' =>
          have hform := (List.cons.inj (call_inj heq).2).1
          exact absurd (congrArg (fun f => [f]) hform) (hcollection.ne_string _ _)
      | document hid' _ hcollection' hdatabase' =>
          obtain ⟨-, hargs⟩ := call_inj heq
          obtain ⟨hform, hargs⟩ := List.cons.inj hargs
          obtain ⟨htext, hargs⟩ := List.cons.inj hargs
          simp only [visible, hid, hid', quotedId_inj (Form.string.inj htext),
            ih hdatabase' hargs, ihcollection hcollection' (congrArg (fun f => [f]) hform)]

theorem visible_eq_null {v : Value} : v.visible = .null ↔ v = .null := by
  cases v <;> simp [visible]

theorem hideDatabase_eq_null {v : Value} : v.hideDatabase = .null ↔ v = .null := by
  unfold hideDatabase
  split
  · simp
  · rfl

theorem atTop_visible {v : Value} : v.visible.AtTop ↔ v.AtTop := by
  cases v with
  | ref id collection database =>
      constructor
      · rintro ⟨id', database', h⟩
        rw [visible] at h
        injection h with _ hnull _
        exact ⟨id, database, by rw [visible_eq_null.1 (hideDatabase_eq_null.1 hnull)]⟩
      · rintro ⟨id', database', h⟩
        cases h
        exact ⟨id, database.visible, rfl⟩
  | _ => rfl

theorem hideDatabase_eq {v : Value} (h : ¬ v.AtTop) : v.hideDatabase = v := by
  unfold hideDatabase
  split
  · exact absurd ⟨_, _, rfl⟩ h
  · rfl

theorem Spelled.visible {v : Value} {forms : List Form} (h : Spelled v forms) :
    Spelled v.visible forms := by
  induction h with
  | nowhere => exact .nowhere
  | top hid hname _ ih => exact .top hid hname ih
  | schema hid hparent hname _ ih => exact .schema hid hparent hname ih
  | document hid htop _ _ ihcollection ih =>
      rw [Value.visible, hideDatabase_eq (mt atTop_visible.1 htop)]
      exact .document hid (mt atTop_visible.1 htop) ihcollection ih

theorem Spelled.unique {v : Value} {forms forms' : List Form} (h : Spelled v forms)
    (h' : Spelled v forms') : forms = forms' := by
  induction h generalizing forms' with
  | nowhere => cases h' with | nowhere => rfl
  | top hid hname _ ih =>
      cases h' with
      | top hid' hname' hdatabase' =>
          obtain rfl := Str.of_inj.1 (hid.symm.trans hid')
          rw [ih hdatabase']
      | document _ _ hnull => cases hnull
  | schema hid hparent hname _ ih =>
      cases h' with
      | schema hid' hparent' hname' hdatabase' =>
          obtain rfl := Str.ofChars_inj.1 (hid.symm.trans hid')
          obtain rfl := Str.of_inj.1 (hparent.symm.trans hparent')
          rw [ih hdatabase', schemaHelper_unique hname hname']
      | document _ htop => exact absurd ⟨_, _, rfl⟩ htop
  | document hid htop hcollection _ ihcollection ih =>
      cases h' with
      | top => cases hcollection
      | schema => exact absurd ⟨_, _, rfl⟩ htop
      | document hid' _ hcollection' hdatabase' =>
          obtain rfl := Str.ofChars_inj.1 (hid.symm.trans hid')
          cases ihcollection hcollection'
          rw [ih hdatabase']

theorem Spelled.eq_iff {v w : Value} {forms forms' : List Form} (hv : Spelled v forms)
    (hw : Spelled w forms') : forms = forms' ↔ v.visible = w.visible := by
  constructor
  · exact hv.visible_eq hw
  · intro h
    have hsame := hv.visible
    rw [h] at hsame
    exact hsame.unique hw.visible

theorem forall_ids {P : Str → Prop} {id : Str} {collection database : Value} :
    (∀ i ∈ (visible (.ref (.str id) collection database)).ids, P i) ↔
      P id ∧ (∀ i ∈ collection.visible.hideDatabase.ids, P i) ∧
        ∀ i ∈ database.visible.ids, P i := by
  simp [visible, ids, or_imp, forall_and]

theorem Proper.not_atTop {id : Str} {collection database : Value} (h : Proper collection) :
    ¬ AtTop (.ref (.str id) collection database) := by
  rintro ⟨_, _, heq⟩
  cases heq
  cases h

/-- The id can stand between quotation marks as it is. -/
def Quotable [CharacterNames] (id : Str) : Prop :=
  ∃ text, id = Str.ofChars text ∧ (Token.string (quotedId text)).WellFormed ∧
    (Token.string (quotedId text)).Reads

section

variable [CharacterNames]

theorem Placed.spelled {v : Value} (h : Placed v) (hids : ∀ id ∈ v.visible.ids, Quotable id) :
    ∃ forms, Spelled v forms := by
  induction h with
  | nowhere => exact ⟨_, .nowhere⟩
  | database _ _ _ ih =>
      obtain ⟨⟨text, hid, -⟩, -, houter⟩ := forall_ids.1 hids
      obtain ⟨args, hargs⟩ := ih houter
      have hname : ("databases", "Database") ∈ schemaHelpers := by decide
      exact ⟨_, .schema hid rfl hname hargs⟩

theorem Proper.spelled {v : Value} (h : Proper v) (hids : ∀ id ∈ v.visible.ids, Quotable id) :
    ∃ form, Spelled v [form] := by
  induction h with
  | top hname hdatabase =>
      obtain ⟨-, -, hplace⟩ := forall_ids.1 hids
      obtain ⟨args, hargs⟩ := hdatabase.spelled hplace
      exact ⟨_, .top rfl hname hargs⟩
  | within hcollection hdatabase ih =>
      obtain ⟨⟨text, hid, -⟩, hinside, hplace⟩ := forall_ids.1 hids
      obtain ⟨args, hargs⟩ := hdatabase.spelled hplace
      cases hcollection with
      | top hname => exact ⟨_, .schema hid rfl hname hargs⟩
      | within hparent =>
          rw [hideDatabase_eq (mt atTop_visible.1 hparent.not_atTop)] at hinside
          obtain ⟨form, hform⟩ := ih hinside
          exact ⟨_, .document hid hparent.not_atTop hform hargs⟩

end

inductive Told : Value → List Form → Prop where
  | nothing : Told .null []
  | call {v : Value} {name text : List Char} {args : List Form} : v.truthy = true →
      v.inspect = .ok (Str.ofChars text) → Printed (.call name args) text →
      Told v [.call name args]

theorem Told.printed {v : Value} {form : Form} (h : Told v [form]) :
    ∃ text, v.inspect = .ok (Str.ofChars text) ∧ Printed form text := by
  cases h with
  | call _ htext hprinted => exact ⟨_, htext, hprinted⟩

def isGap (c : Char) : Bool :=
  isSeparator (.char c)

theorem dropWhile_ofChars (cs : List Char) :
    (Str.ofChars cs).dropWhile isSeparator = Str.ofChars (cs.dropWhile isGap) :=
  List.dropWhile_map

theorem dropWhile_printed {name text : List Char} {args : List Form}
    (h : Printed (.call name args) text) : text.dropWhile isGap = text := by
  cases h with
  | call hname =>
      obtain ⟨c, cs, rfl, hstart, -⟩ := hname
      refine List.dropWhile_cons_of_neg fun hgap => ?_
      simp only [isGap, isSeparator, Bool.or_eq_true, beq_iff_eq, CodePoint.char.injEq] at hgap
      rcases hgap with rfl | rfl
      · exact absurd hstart (by decide)
      · exact absurd hstart (by decide)

theorem Told.scope {database : Value} {args : List Form} (h : Told database args) :
    ∃ scope, scopeText database.truthy database.inspect = .ok (Str.ofChars scope) ∧
      PrintedAll args (scope.dropWhile isGap) ∧
      ∀ form text, Printed form text → PrintedAll (form :: args) (text ++ scope) := by
  cases h with
  | nothing =>
      refine ⟨[], rfl, .none, fun form text hform => ?_⟩
      rw [List.append_nil]
      exact .last hform
  | @call _ name text args htruthy htext hprinted =>
      refine ⟨',' :: ' ' :: text, ?_, ?_, fun first before hfirst => ?_⟩
      · rw [scopeText, htruthy, if_pos rfl, htext]
        rfl
      · rw [List.dropWhile_cons_of_pos rfl, List.dropWhile_cons_of_pos rfl,
          dropWhile_printed hprinted]
        exact .last hprinted
      · exact .more hfirst (.last hprinted)

def isCallName (name : List Char) : Bool :=
  (name.head?.map Statement.isNameStart).getD false && name.tail.all Statement.isNamePart &&
    !Statement.Machine.keywords.contains name

theorem printed_call {name text : List Char} {args : List Form} (hname : isCallName name = true)
    (hargs : PrintedAll args text) :
    Printed (.call name args) (name ++ '(' :: (text ++ [')'])) := by
  cases name with
  | nil => cases hname
  | cons c cs =>
      simp only [isCallName, List.head?_cons, Option.map_some, Option.getD_some, List.tail_cons,
        Bool.and_eq_true, List.all_eq_true, Bool.not_eq_true', List.contains_eq_mem,
        decide_eq_false_iff_not] at hname
      exact .call ⟨c, cs, rfl, hname.1.1, hname.1.2⟩ hname.2 hargs

theorem isCallName_topHelper {name helper : String} (h : (name, helper) ∈ schemaHelpers) :
    isCallName (topHelper name).toList = true := by
  have hall : ∀ p ∈ schemaHelpers, isCallName (topHelper p.1).toList = true := by
    decide +kernel
  exact hall (name, helper) h

theorem isCallName_schemaHelper {name helper : String} (h : (name, helper) ∈ schemaHelpers) :
    isCallName helper.toList = true := by
  have hall : ∀ p ∈ schemaHelpers, isCallName p.2.toList = true := by decide
  exact hall (name, helper) h

theorem isCallName_ref : isCallName ['R', 'e', 'f'] = true := by decide

theorem schema?_top {name helper : String} (h : (name, helper) ∈ schemaHelpers) (hidden : Value) :
    schema? (.ref (.str name) .null hidden) = .ok (some helper) := by
  have hall : ∀ p ∈ schemaHelpers, schemaHelpers.lookup p.1 = some p.2 := by decide
  have hlookup : schemaHelpers.lookup name = some helper := hall (name, helper) h
  simp only [schema?, checkHashable, Str.text?_of, Option.bind_some, hlookup]
  rfl

theorem schema?_not_top {v : Value} (h : ¬ v.AtTop) : schema? v = .ok none := by
  unfold schema?
  split
  · exact absurd ⟨_, _, rfl⟩ h
  · rfl

def isPlain (c : Char) : Bool :=
  c != '"' && c != '\\' && c != '\x00'

theorem isPlain_eq_true {c : Char} : isPlain c = true ↔ c ≠ '"' ∧ c ≠ '\\' ∧ c ≠ '\x00' := by
  simp [isPlain, and_assoc]

theorem stringRest_plain {text : List Char} (h : ∀ c ∈ text, isPlain c = true) :
    StringRest '"' (text ++ ['"']) := by
  induction text with
  | nil => exact .close
  | cons c text ih =>
      obtain ⟨hc, htext⟩ := List.forall_mem_cons.1 h
      obtain ⟨hquote, hbackslash, -⟩ := isPlain_eq_true.1 hc
      exact .plain hquote hbackslash (ih htext)

theorem flatMap_quoteChar {text : List Char} (h : ∀ c ∈ text, isPlain c = true) :
    text.flatMap (quoteChar '"') = text := by
  induction text with
  | nil => rfl
  | cons c text ih =>
      obtain ⟨hc, htext⟩ := List.forall_mem_cons.1 h
      obtain ⟨hquote, hbackslash, -⟩ := isPlain_eq_true.1 hc
      rw [List.flatMap_cons, ih htext, quoteChar, if_neg (by simp [hquote, hbackslash])]
      rfl

section

variable [CharacterNames]

theorem quotable_plain {id : String} (h : id.toList.all isPlain = true) :
    Quotable (Str.of id) := by
  have hplain : ∀ c ∈ id.toList, isPlain c = true := List.all_eq_true.1 h
  have hnul : '\x00' ∉ id.toList := fun hc => (isPlain_eq_true.1 (hplain _ hc)).2.2 rfl
  have hquote : Statement.isQuote '"' = true := rfl
  obtain ⟨pieces, hgreedy, hwritten, -⟩ := exists_pieces hquote hnul
  rw [flatMap_quoteChar hplain] at hwritten
  have hdenotes := DenotesString.pieces hquote hgreedy
  rw [hwritten] at hdenotes
  exact ⟨id.toList, rfl, ⟨_, _, rfl, rfl, stringRest_plain hplain⟩, _, hdenotes⟩

theorem Spelled.told {v : Value} {forms : List Form} (h : Spelled v forms)
    (hids : ∀ id ∈ v.visible.ids, Quotable id) : Told v forms := by
  induction h with
  | nowhere => exact .nothing
  | @top id name helper database args hid hname _ ih =>
      obtain ⟨-, -, hdatabase⟩ := forall_ids.1 hids
      obtain ⟨scope, hscope, hargs, -⟩ := (ih hdatabase).scope
      have htext : inspect (.ref (.str id) .null database) =
          .ok (Str.ofChars
            ((topHelper name).toList ++ '(' :: (scope.dropWhile isGap ++ [')']))) := by
        rw [inspect, refText_orphan, hscope, hid, collectionHelper_of]
        refine congrArg Except.ok ?_
        simp [dropWhile_ofChars, Str.of]
      exact .call rfl htext (printed_call (isCallName_topHelper hname) hargs)
  | @schema id parent text name helper hidden database args hid hparent hname _ ih =>
      obtain ⟨⟨text', hid', hwf, -⟩, -, hdatabase⟩ := forall_ids.1 hids
      obtain rfl := Str.ofChars_inj.1 (hid.symm.trans hid')
      obtain ⟨scope, hscope, -, hafter⟩ := (ih hdatabase).scope
      have htext : inspect (.ref (.str id) (.ref (.str parent) .null hidden) database) =
          .ok (Str.ofChars (helper.toList ++ '(' :: (quotedId text ++ scope ++ [')']))) := by
        rw [inspect, hparent, schema?_top hname, refText_schema, hscope, hid]
        refine congrArg Except.ok ?_
        simp [quotedId, Str.of]
      exact .call rfl htext
        (printed_call (isCallName_schemaHelper hname) (hafter _ _ (.string hwf)))
  | @document id text collection database form args hid htop hspelled _ ihcollection ih =>
      obtain ⟨⟨text', hid', hwf, -⟩, hcollection, hdatabase⟩ := forall_ids.1 hids
      obtain rfl := Str.ofChars_inj.1 (hid.symm.trans hid')
      rw [hideDatabase_eq (mt atTop_visible.1 htop)] at hcollection
      obtain ⟨scope, hscope, -, hafter⟩ := (ih hdatabase).scope
      obtain ⟨parent, grandparent, place, rfl⟩ := hspelled.isRef
      cases ihcollection hcollection with
      | @call _ name above inner _ habove hprinted =>
          have htext : inspect (.ref (.str id) (.ref parent grandparent place) database) =
              .ok (Str.ofChars (['R', 'e', 'f'] ++
                '(' :: (above ++ ',' :: ' ' :: (quotedId text ++ scope) ++ [')']))) := by
            rw [inspect, schema?_not_top htop, refText_document, hscope, habove, hid]
            refine congrArg Except.ok ?_
            simp [quotedId, Str.of]
          exact .call rfl htext (printed_call isCallName_ref
            (.more hprinted (hafter _ _ (.string hwf))))

end

end QueryShell.Value
