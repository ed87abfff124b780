import QueryShell.Proofs.Computation
import QueryShell.Proofs.Statement.NumberMeaning
import QueryShell.Proofs.Statement.Reached
import QueryShell.Proofs.Statement.StringMeaning

namespace QueryShell.Statement

theorem toList_of_ofList {text : List Char} {s : String} (h : String.ofList text = s) :
    text = s.toList := by
  rw [← h, String.toList_ofList]

variable [CharacterNames]

inductive DenotesKey : Key → Str → Prop where
  | name {text : List Char} : DenotesKey (.name text) (Str.ofChars text)
  | string {token : List Char} {s : Str} : DenotesString token s → DenotesKey (.string token) s

mutual

inductive Denotes : Form → Node → Prop where
  | true : Denotes (.name ['t', 'r', 'u', 'e']) (.literal (.bool true))
  | false : Denotes (.name ['f', 'a', 'l', 's', 'e']) (.literal (.bool false))
  | null : Denotes (.name ['n', 'u', 'l', 'l']) (.literal .null)
  | identifier {text : List Char} : text ∉ Machine.keywords →
      Denotes (.name text) (.identifier (String.ofList text))
  | string {token : List Char} {s : Str} : DenotesString token s →
      Denotes (.string token) (.literal (.str s))
  | number {token : List Char} {v : Value} : DenotesNumber token v →
      Denotes (.number token) (.literal v)
  | call {name : List Char} {args : List Form} {nodes : List Node} : DenotesAll args nodes →
      Denotes (.call name args) (.call (String.ofList name) nodes)
  | array {items : List Form} {nodes : List Node} : DenotesAll items nodes →
      Denotes (.array items) (.array nodes)
  | object {pairs : List (Key × Form)} {nodes : List (Str × Node)} :
      DenotesPairs pairs nodes → Denotes (.object pairs) (.object nodes)

inductive DenotesAll : List Form → List Node → Prop where
  | nil : DenotesAll [] []
  | cons {form : Form} {node : Node} {forms : List Form} {nodes : List Node} :
      Denotes form node → DenotesAll forms nodes → DenotesAll (form :: forms) (node :: nodes)

inductive DenotesPairs : List (Key × Form) → List (Str × Node) → Prop where
  | nil : DenotesPairs [] []
  | cons {key : Key} {name : Str} {form : Form} {node : Node} {pairs : List (Key × Form)}
      {nodes : List (Str × Node)} : DenotesKey key name → Denotes form node →
      DenotesPairs pairs nodes → DenotesPairs ((key, form) :: pairs) ((name, node) :: nodes)

end

theorem denotes_name (text : List Char) : Denotes (.name text) (nameNode text) := by
  unfold nameNode
  split
  · next heq => rw [toList_of_ofList heq]; exact .true
  · next heq => rw [toList_of_ofList heq]; exact .false
  · next heq => rw [toList_of_ofList heq]; exact .null
  · next htrue hfalse hnull =>
      refine .identifier ?_
      intro hkey
      simp only [Machine.keywords, List.mem_cons, List.not_mem_nil, or_false] at hkey
      rcases hkey with rfl | rfl | rfl
      · exact htrue rfl
      · exact hfalse rfl
      · exact hnull rfl

theorem nameNode_of_denotes {text : List Char} {node : Node} (h : Denotes (.name text) node) :
    nameNode text = node := by
  cases h with
  | true => rfl
  | false => rfl
  | null => rfl
  | identifier hkey =>
      unfold nameNode
      split
      · next heq => exact absurd (toList_of_ofList heq ▸ by decide) hkey
      · next heq => exact absurd (toList_of_ofList heq ▸ by decide) hkey
      · next heq => exact absurd (toList_of_ofList heq ▸ by decide) hkey
      · rfl

theorem DenotesKey.keyText_eq {key : Key} {s : Str} (h : DenotesKey key s) :
    keyText key = .ok s := by
  cases h with
  | name => rfl
  | string hs => exact hs.stringValue_eq

theorem DerivesKey.keyText_eq_ok_iff {k : Token} {key : Key} (h : DerivesKey k key)
    (hwf : k.WellFormed) {s : Str} : keyText key = .ok s ↔ DenotesKey key s := by
  refine ⟨fun hs => ?_, DenotesKey.keyText_eq⟩
  cases h with
  | name =>
      cases hs
      exact .name
  | string => exact .string ((stringValue_eq_ok_iff hwf).1 hs)

mutual

theorem Denotes.toNode_eq {form : Form} {node : Node} (h : Denotes form node) :
    form.toNode = .ok node := by
  cases h with
  | true => rfl
  | false => rfl
  | null => rfl
  | identifier hkey => exact congrArg Except.ok (nameNode_of_denotes (.identifier hkey))
  | string hs => exact bind_ok.2 ⟨_, hs.stringValue_eq, rfl⟩
  | number hv => exact bind_ok.2 ⟨_, hv.numberValue_eq, rfl⟩
  | call hargs => exact bind_ok.2 ⟨_, hargs.toNodes_eq, rfl⟩
  | array hitems => exact bind_ok.2 ⟨_, hitems.toNodes_eq, rfl⟩
  | object hpairs => exact bind_ok.2 ⟨_, hpairs.toNodes_eq, rfl⟩

theorem DenotesAll.toNodes_eq {forms : List Form} {nodes : List Node}
    (h : DenotesAll forms nodes) : formsToNodes forms = .ok nodes := by
  cases h with
  | nil => rfl
  | cons hform hforms =>
      exact bind_ok.2 ⟨_, hform.toNode_eq, bind_ok.2 ⟨_, hforms.toNodes_eq, rfl⟩⟩

theorem DenotesPairs.toNodes_eq {pairs : List (Key × Form)} {nodes : List (Str × Node)}
    (h : DenotesPairs pairs nodes) : pairsToNodes pairs = .ok nodes := by
  cases h with
  | nil => rfl
  | cons hkey hform hpairs =>
      exact bind_ok.2 ⟨_, hform.toNode_eq, bind_ok.2 ⟨_, hkey.keyText_eq,
        bind_ok.2 ⟨_, hpairs.toNodes_eq, rfl⟩⟩⟩

end

mutual

theorem Derives.denotes {ts : List Token} {form : Form} (h : Derives ts form)
    (hwf : ∀ t ∈ ts, t.WellFormed) {node : Node} (hn : form.toNode = .ok node) :
    Denotes form node := by
  cases h with
  | name =>
      cases hn
      exact denotes_name _
  | string =>
      obtain ⟨s, hs, heq⟩ := bind_ok.1 hn
      cases heq
      exact .string ((stringValue_eq_ok_iff (hwf _ (by simp))).1 hs)
  | number =>
      obtain ⟨v, hv, heq⟩ := bind_ok.1 hn
      cases heq
      exact .number ((numberValue_eq_ok_iff (hwf _ (by simp))).1 hv)
  | call _ hitems =>
      obtain ⟨nodes, hnodes, heq⟩ := bind_ok.1 hn
      cases heq
      exact .call (hitems.denotes (fun t ht => hwf t (by simp [ht])) hnodes)
  | array hitems =>
      obtain ⟨nodes, hnodes, heq⟩ := bind_ok.1 hn
      cases heq
      exact .array (hitems.denotes (fun t ht => hwf t (by simp [ht])) hnodes)
  | object hpairs =>
      obtain ⟨nodes, hnodes, heq⟩ := bind_ok.1 hn
      cases heq
      exact .object (hpairs.denotes (fun t ht => hwf t (by simp [ht])) hnodes)

theorem DerivesItems.denotes {ts : List Token} {forms : List Form} (h : DerivesItems ts forms)
    (hwf : ∀ t ∈ ts, t.WellFormed) {nodes : List Node} (hn : formsToNodes forms = .ok nodes) :
    DenotesAll forms nodes := by
  cases h with
  | none =>
      cases hn
      exact .nil
  | last hform =>
      obtain ⟨node, hnode, hrest⟩ := bind_ok.1 hn
      cases hrest
      exact .cons (hform.denotes hwf hnode) .nil
  | more hform hitems =>
      obtain ⟨node, hnode, hrest⟩ := bind_ok.1 hn
      obtain ⟨nodes, hnodes, heq⟩ := bind_ok.1 hrest
      cases heq
      exact .cons (hform.denotes (fun t ht => hwf t (by simp [ht])) hnode)
        (hitems.denotes (fun t ht => hwf t (by simp [ht])) hnodes)

theorem DerivesPairs.denotes {ts : List Token} {pairs : List (Key × Form)}
    (h : DerivesPairs ts pairs) (hwf : ∀ t ∈ ts, t.WellFormed) {nodes : List (Str × Node)}
    (hn : pairsToNodes pairs = .ok nodes) : DenotesPairs pairs nodes := by
  cases h with
  | none =>
      cases hn
      exact .nil
  | last hkey hform =>
      obtain ⟨node, hnode, hrest⟩ := bind_ok.1 hn
      obtain ⟨name, hname, heq⟩ := bind_ok.1 hrest
      cases heq
      exact .cons ((hkey.keyText_eq_ok_iff (hwf _ (by simp))).1 hname)
        (hform.denotes (fun t ht => hwf t (by simp [ht])) hnode) .nil
  | more hkey hform hpairs =>
      obtain ⟨node, hnode, hrest⟩ := bind_ok.1 hn
      obtain ⟨name, hname, hrest⟩ := bind_ok.1 hrest
      obtain ⟨nodes, hnodes, heq⟩ := bind_ok.1 hrest
      cases heq
      exact .cons ((hkey.keyText_eq_ok_iff (hwf _ (by simp))).1 hname)
        (hform.denotes (fun t ht => hwf t (by simp [ht])) hnode)
        (hpairs.denotes (fun t ht => hwf t (by simp [ht])) hnodes)

end

theorem Program.denotes {ts : List Token} {forms : List Form} (h : Program ts forms)
    (hwf : ∀ t ∈ ts, t.WellFormed) {nodes : List Node} (hn : formsToNodes forms = .ok nodes) :
    DenotesAll forms nodes := by
  induction h generalizing nodes with
  | last hform => exact (DerivesItems.last hform).denotes hwf hn
  | closed hform =>
      exact (DerivesItems.last hform).denotes (fun t ht => hwf t (by simp [ht])) hn
  | more hform _ ih =>
      obtain ⟨node, hnode, hrest⟩ := bind_ok.1 hn
      obtain ⟨nodes, hnodes, heq⟩ := bind_ok.1 hrest
      cases heq
      exact .cons (hform.denotes (fun t ht => hwf t (by simp [ht])) hnode)
        (ih (fun t ht => hwf t (by simp [ht])) hnodes)

def Token.Reads : Token → Prop
  | .string text => ∃ s, DenotesString text s
  | .number text => ∃ v, DenotesNumber text v
  | .name _ | .mark _ => True

theorem DerivesKey.reads_iff {k : Token} {key : Key} (h : DerivesKey k key) (hwf : k.WellFormed) :
    k.Reads ↔ ∃ s, keyText key = .ok s := by
  cases h with
  | name => exact ⟨fun _ => ⟨_, rfl⟩, fun _ => trivial⟩
  | string => exact exists_congr fun s => (stringValue_eq_ok_iff hwf).symm

theorem formsToNodes_cons_ok {form : Form} {forms : List Form} :
    (∃ nodes, formsToNodes (form :: forms) = .ok nodes) ↔
      (∃ node, form.toNode = .ok node) ∧ ∃ nodes, formsToNodes forms = .ok nodes := by
  constructor
  · rintro ⟨_, h⟩
    obtain ⟨node, hnode, hrest⟩ := bind_ok.1 h
    obtain ⟨nodes, hnodes, -⟩ := bind_ok.1 hrest
    exact ⟨⟨node, hnode⟩, nodes, hnodes⟩
  · rintro ⟨⟨node, hnode⟩, nodes, hnodes⟩
    exact ⟨_, bind_ok.2 ⟨node, hnode, bind_ok.2 ⟨nodes, hnodes, rfl⟩⟩⟩

theorem pairsToNodes_cons_ok {key : Key} {form : Form} {pairs : List (Key × Form)} :
    (∃ nodes, pairsToNodes ((key, form) :: pairs) = .ok nodes) ↔
      (∃ s, keyText key = .ok s) ∧ (∃ node, form.toNode = .ok node) ∧
        ∃ nodes, pairsToNodes pairs = .ok nodes := by
  constructor
  · rintro ⟨_, h⟩
    obtain ⟨node, hnode, hrest⟩ := bind_ok.1 h
    obtain ⟨name, hname, hrest⟩ := bind_ok.1 hrest
    obtain ⟨nodes, hnodes, -⟩ := bind_ok.1 hrest
    exact ⟨⟨name, hname⟩, ⟨node, hnode⟩, nodes, hnodes⟩
  · rintro ⟨⟨name, hname⟩, ⟨node, hnode⟩, nodes, hnodes⟩
    exact ⟨_, bind_ok.2 ⟨node, hnode, bind_ok.2 ⟨name, hname, bind_ok.2 ⟨nodes, hnodes, rfl⟩⟩⟩⟩

mutual

theorem Derives.reads_iff {ts : List Token} {form : Form} (h : Derives ts form)
    (hwf : ∀ t ∈ ts, t.WellFormed) : (∀ t ∈ ts, t.Reads) ↔ ∃ node, form.toNode = .ok node := by
  cases h with
  | name =>
      rw [List.forall_mem_singleton]
      exact ⟨fun _ => ⟨_, rfl⟩, fun _ => trivial⟩
  | string =>
      rw [List.forall_mem_singleton]
      refine Iff.trans ?_ exists_ok_map.symm
      exact exists_congr fun s => (stringValue_eq_ok_iff (hwf _ (by simp))).symm
  | number =>
      rw [List.forall_mem_singleton]
      refine Iff.trans ?_ exists_ok_map.symm
      exact exists_congr fun v => (numberValue_eq_ok_iff (hwf _ (by simp))).symm
  | call _ hitems =>
      have hinside := hitems.reads_iff fun t ht => hwf t (by simp [ht])
      refine Iff.trans ?_ (hinside.trans exists_ok_map.symm)
      simp [Token.Reads, or_imp, forall_and]
  | array hitems =>
      have hinside := hitems.reads_iff fun t ht => hwf t (by simp [ht])
      refine Iff.trans ?_ (hinside.trans exists_ok_map.symm)
      simp [Token.Reads, or_imp, forall_and]
  | object hpairs =>
      have hinside := hpairs.reads_iff fun t ht => hwf t (by simp [ht])
      refine Iff.trans ?_ (hinside.trans exists_ok_map.symm)
      simp [Token.Reads, or_imp, forall_and]

theorem DerivesItems.reads_iff {ts : List Token} {forms : List Form}
    (h : DerivesItems ts forms) (hwf : ∀ t ∈ ts, t.WellFormed) :
    (∀ t ∈ ts, t.Reads) ↔ ∃ nodes, formsToNodes forms = .ok nodes := by
  cases h with
  | none => exact ⟨fun _ => ⟨[], rfl⟩, fun _ => by simp⟩
  | last hform => rw [formsToNodes_cons_ok, hform.reads_iff hwf]; simp [formsToNodes]
  | more hform hitems =>
      rw [formsToNodes_cons_ok, ← hform.reads_iff fun t ht => hwf t (by simp [ht]),
        ← hitems.reads_iff fun t ht => hwf t (by simp [ht])]
      simp [Token.Reads, or_imp, forall_and]

theorem DerivesPairs.reads_iff {ts : List Token} {pairs : List (Key × Form)}
    (h : DerivesPairs ts pairs) (hwf : ∀ t ∈ ts, t.WellFormed) :
    (∀ t ∈ ts, t.Reads) ↔ ∃ nodes, pairsToNodes pairs = .ok nodes := by
  cases h with
  | none => exact ⟨fun _ => ⟨[], rfl⟩, fun _ => by simp⟩
  | last hkey hform =>
      rw [pairsToNodes_cons_ok, ← hkey.reads_iff (hwf _ (by simp)),
        ← hform.reads_iff fun t ht => hwf t (by simp [ht])]
      simp [Token.Reads, pairsToNodes]
  | more hkey hform hpairs =>
      rw [pairsToNodes_cons_ok, ← hkey.reads_iff (hwf _ (by simp)),
        ← hform.reads_iff fun t ht => hwf t (by simp [ht]),
        ← hpairs.reads_iff fun t ht => hwf t (by simp [ht])]
      simp [Token.Reads, or_imp, forall_and]

end

theorem Program.reads_iff {ts : List Token} {forms : List Form} (h : Program ts forms)
    (hwf : ∀ t ∈ ts, t.WellFormed) :
    (∀ t ∈ ts, t.Reads) ↔ ∃ nodes, formsToNodes forms = .ok nodes := by
  induction h with
  | last hform => exact (DerivesItems.last hform).reads_iff hwf
  | closed hform =>
      rw [← (DerivesItems.last hform).reads_iff fun t ht => hwf t (by simp [ht])]
      simp [Token.Reads, or_imp, forall_and]
  | more hform _ ih =>
      rw [formsToNodes_cons_ok, ← hform.reads_iff fun t ht => hwf t (by simp [ht]),
        ← ih fun t ht => hwf t (by simp [ht])]
      simp [Token.Reads, or_imp, forall_and]

end QueryShell.Statement
