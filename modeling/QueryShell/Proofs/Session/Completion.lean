import Mathlib.Data.List.DropRight
import QueryShell.Proofs.Session.Registry
import QueryShell.Proofs.Statement.Terminal
import QueryShell.Query.Evaluation
import QueryShell.Session.Completion

namespace QueryShell.Session

open Statement (Token isNamePart isNameStart)

variable {before word : List Char}

structure TypesCommand (before word : List Char) : Prop where
  pointed : ∃ blanks, before = blanks ++ '.' :: word ∧ ∀ c ∈ blanks, Text.isBlank c = true
  unspaced : ' ' ∉ word

structure TypesName (before word : List Char) : Prop where
  name : (Token.name word).WellFormed
  atEnd : word <:+ before
  longest : ∀ other, (Token.name other).WellFormed → other <:+ before → other <:+ word

theorem typedCommand?_eq_some : typedCommand? before = some word ↔ TypesCommand before word := by
  constructor
  · intro h
    unfold typedCommand? at h
    split at h
    · next rest heq =>
        split at h
        · cases h
        · next hspace =>
            cases h
            refine ⟨⟨before.takeWhile Text.isBlank, ?_, fun c hc => List.mem_takeWhile_imp hc⟩,
              by simpa using hspace⟩
            rw [← heq]
            exact List.takeWhile_append_dropWhile.symm
    · cases h
  · rintro ⟨⟨blanks, rfl, hblanks⟩, hspace⟩
    have htrim : Text.trimLeft (blanks ++ '.' :: word) = '.' :: word := by
      rw [Text.trimLeft, List.dropWhile_append_of_pos hblanks]
      rfl
    simp [typedCommand?, htrim, hspace]

theorem typedCommand?_eq_none :
    typedCommand? before = none ↔ ∀ word, ¬ TypesCommand before word := by
  simp only [Option.eq_none_iff_forall_ne_some, ne_eq, typedCommand?_eq_some]

theorem nameAtEnd_eq (before : List Char) :
    nameAtEnd before = (before.rtakeWhile isNamePart).dropWhile fun c => !isNameStart c := rfl

theorem namePart_of_start {c : Char} (h : isNameStart c = true) : isNamePart c = true := by
  simp [isNamePart, h]

theorem nameAtEnd_suffix (before : List Char) : nameAtEnd before <:+ before :=
  (List.dropWhile_suffix _).trans (List.rtakeWhile_suffix isNamePart before)

theorem wellFormed_nameAtEnd (h : nameAtEnd before ≠ []) :
    (Token.name (nameAtEnd before)).WellFormed := by
  have hparts : ∀ c ∈ nameAtEnd before, isNamePart c = true :=
    fun c hc => List.mem_rtakeWhile_imp ((List.dropWhile_suffix _).subset hc)
  have hstart := List.head?_dropWhile_not (fun c => !isNameStart c) (before.rtakeWhile isNamePart)
  rw [← nameAtEnd_eq] at hstart
  cases hname : nameAtEnd before with
  | nil => exact absurd hname h
  | cons c cs =>
      rw [hname] at hparts hstart
      exact ⟨c, cs, rfl, by simpa using hstart, fun d hd => hparts d (by simp [hd])⟩

theorem suffix_nameAtEnd {other : List Char} (h : (Token.name other).WellFormed)
    (hend : other <:+ before) : other <:+ nameAtEnd before := by
  obtain ⟨c, cs, rfl, hc, hcs⟩ := h
  obtain ⟨front, rfl⟩ := hend
  have hparts : ∀ d ∈ (c :: cs).reverse, isNamePart d = true := by
    intro d hd
    rcases List.mem_cons.1 (List.mem_reverse.1 hd) with rfl | hd
    · exact namePart_of_start hc
    · exact hcs d hd
  have hrun : (front ++ c :: cs).rtakeWhile isNamePart =
      front.rtakeWhile isNamePart ++ c :: cs := by
    rw [List.rtakeWhile, List.reverse_append, List.takeWhile_append_of_pos hparts,
      List.reverse_append, List.reverse_reverse]
    rfl
  rw [nameAtEnd_eq, hrun, List.dropWhile_append]
  split
  · simp [hc]
  · exact List.suffix_append ..

theorem typesName_iff : TypesName before word ↔ word ≠ [] ∧ nameAtEnd before = word := by
  constructor
  · intro h
    have hinside := suffix_nameAtEnd h.name h.atEnd
    have hword : word ≠ [] := by
      obtain ⟨c, cs, rfl, -⟩ := h.name
      simp
    have hne : nameAtEnd before ≠ [] := by
      intro hnil
      rw [hnil] at hinside
      exact hword (List.suffix_nil.1 hinside)
    have hback := h.longest _ (wellFormed_nameAtEnd hne) (nameAtEnd_suffix before)
    exact ⟨hword, hback.eq_of_length_le hinside.length_le⟩
  · rintro ⟨hword, rfl⟩
    exact ⟨wellFormed_nameAtEnd hword, nameAtEnd_suffix before, fun other => suffix_nameAtEnd⟩

theorem nameAtEnd_break (front : List Char) : nameAtEnd (front ++ ['\n']) = [] := by
  rw [nameAtEnd_eq, List.rtakeWhile_concat_neg _ _ _ (by decide)]
  rfl

theorem not_typesName_break {front : List Char} : ¬ TypesName (front ++ ['\n']) word := by
  rw [typesName_iff, nameAtEnd_break]
  rintro ⟨hword, rfl⟩
  exact hword rfl

theorem found_eq_some :
    (if nameAtEnd before = [] then none else some (nameAtEnd before)) = some word ↔
      TypesName before word := by
  rw [typesName_iff]
  by_cases hnil : nameAtEnd before = []
  · rw [if_pos hnil, hnil]
    constructor
    · intro h
      cases h
    · rintro ⟨hword, rfl⟩
      exact absurd rfl hword
  · rw [if_neg hnil, Option.some.injEq]
    constructor
    · rintro rfl
      exact ⟨hnil, rfl⟩
    · exact fun h => h.2

theorem typedName?_break {front : List Char} :
    typedName? (front ++ ['\n']) = some word ↔ TypesName front word := by
  rw [← found_eq_some]
  simp [typedName?, nameAtEnd_break]

theorem typedName?_of_no_break (h : before.getLast? ≠ some '\n') :
    typedName? before = some word ↔ TypesName before word := by
  have hfound : typedName? before =
      if nameAtEnd before = [] then none else some (nameAtEnd before) := by
    simp only [typedName?]
    split
    · next heq => exact absurd heq h
    · simp
  rw [hfound, found_eq_some]

theorem typedName?_eq_some : typedName? before = some word ↔
    TypesName before word ∨ ∃ front, before = front ++ ['\n'] ∧ TypesName front word := by
  by_cases hbreak : before.getLast? = some '\n'
  · obtain ⟨front, rfl⟩ := List.getLast?_eq_some_iff.1 hbreak
    rw [typedName?_break]
    constructor
    · exact fun h => .inr ⟨front, rfl, h⟩
    · rintro (h | ⟨front', heq, h⟩)
      · exact absurd h not_typesName_break
      · obtain ⟨rfl, -⟩ := List.append_inj' heq rfl
        exact h
  · rw [typedName?_of_no_break hbreak]
    constructor
    · exact .inl
    · rintro (h | ⟨front, rfl, -⟩)
      · exact h
      · exact absurd List.getLast?_concat hbreak

structure Offers (names : List String) (word : List Char) (offered : List String) : Prop where
  mem_iff : ∀ name, name ∈ offered ↔ name ∈ names ∧ word <+: name.toList
  increasing : offered.Pairwise (· < ·)

theorem mem_extending {names : List String} {name : String} :
    name ∈ extending word names ↔ name ∈ names ∧ word <+: name.toList := by
  simp [extending]

theorem offers_extending {names : List String} (h : names.Pairwise (· < ·)) (word : List Char) :
    Offers names word (extending word names) :=
  ⟨fun _ => mem_extending, h.filter _⟩

theorem sortedNames_increasing {names : List String} (h : names.Nodup) :
    (sortedNames names).Pairwise (· < ·) := by
  have hsorted : (sortedNames names).Pairwise fun a b => decide (a ≤ b) = true :=
    List.pairwise_mergeSort (by simpa using fun _ _ _ => String.le_trans)
      (by simpa using String.le_total) names
  have hnodup : (sortedNames names).Nodup := (List.mergeSort_perm names _).nodup_iff.2 h
  refine (hsorted.and hnodup).imp fun {a b} hab => ?_
  refine Decidable.byContradiction fun hlt => hab.2 ?_
  exact String.le_antisymm (of_decide_eq_true hab.1) (String.not_lt.1 hlt)

theorem mem_extending_sortedNames {names : List String} {name : String} :
    name ∈ extending word (sortedNames names) ↔ name ∈ names ∧ word <+: name.toList := by
  rw [mem_extending, sortedNames, List.mem_mergeSort]

theorem offers_sortedNames {names : List String} (h : names.Nodup) (word : List Char) :
    Offers names word (extending word (sortedNames names)) :=
  ⟨fun _ => mem_extending_sortedNames,
    (offers_extending (sortedNames_increasing h) word).increasing⟩

inductive Completes (commands bindings : List String) (before : List Char) :
    List Char → List String → Prop where
  | command {word : List Char} {names : List String} : TypesCommand before word →
      Offers commands word names → Completes commands bindings before word names
  | name {word : List Char} {names : List String} : (∀ w, ¬ TypesCommand before w) →
      TypesName before word → Offers bindings word names →
      Completes commands bindings before word names
  | nothing : (∀ w, ¬ TypesCommand before w) → (∀ w, ¬ TypesName before w) →
      Completes commands bindings before [] []

def Completion.applied (c : Completion) (text : List Char) (cursor : Nat) : List Char :=
  text.take (cursor - c.replaces) ++ c.text.toList ++ text.drop cursor

structure Completion.Extends (c : Completion) (word text : List Char) (cursor : Nat) : Prop where
  size : c.replaces = word.length
  replaced : (text.take cursor).rtake c.replaces = word
  extended : word <+: c.text.toList
  applied : ∃ front, text.take cursor = front ++ word ∧
    c.applied text cursor = front ++ c.text.toList ++ text.drop cursor

def Exact (commands bindings : List String) (text : List Char) (cursor : Nat)
    (offered : List Completion) : Prop :=
  ∃ word, Completes commands bindings (text.take cursor) word (offered.map (·.text)) ∧
    ∀ c ∈ offered, c.Extends word text cursor

theorem textBefore_eq_ok {text : List Char} {cursor : Nat} :
    textBefore text cursor = .ok before ↔ cursor ≤ text.length ∧ before = text.take cursor := by
  unfold textBefore
  split
  · next h => simp [h, eq_comm]
  · next h => simp [h]

theorem extends_of_suffix {text : List Char} {cursor : Nat} {name note : String}
    (hcursor : cursor ≤ text.length) (hword : word <:+ text.take cursor)
    (hname : word <+: name.toList) :
    Completion.Extends ⟨name, word.length, note⟩ word text cursor := by
  obtain ⟨front, hfront⟩ := hword
  have hlen : front.length + word.length = cursor := by
    rw [← List.length_append, hfront, List.length_take, Nat.min_eq_left hcursor]
  have htake : text.take (cursor - word.length) = front := by
    calc text.take (cursor - word.length)
        = (text.take cursor).take (cursor - word.length) := by
          rw [List.take_take, Nat.min_eq_left (Nat.sub_le ..)]
      _ = (front ++ word).take front.length := by
          rw [← hfront, show cursor - word.length = front.length by omega]
      _ = front := List.take_left
  refine ⟨rfl, ?_, hname, front, hfront.symm, ?_⟩
  · rw [← hfront, List.rtake, List.length_append, Nat.add_sub_cancel, List.drop_left]
  · simp only [Completion.applied, htake]

variable {commands bindings : List String}

theorem completions_command (h : TypesCommand before word) (commands bindings : List String) :
    completions commands bindings before =
      (extending word commands).map fun name => ⟨name, word.length, ""⟩ := by
  simp only [completions, typedCommand?_eq_some.2 h]

theorem completions_name (hcommand : ∀ w, ¬ TypesCommand before w)
    (h : typedName? before = some word) (commands bindings : List String) :
    completions commands bindings before =
      (extending word (sortedNames bindings)).map fun name => ⟨name, word.length, scopeNote⟩ := by
  simp only [completions, typedCommand?_eq_none.2 hcommand, h]

theorem completions_nothing (hcommand : ∀ w, ¬ TypesCommand before w)
    (h : typedName? before = none) (commands bindings : List String) :
    completions commands bindings before = [] := by
  simp only [completions, typedCommand?_eq_none.2 hcommand, h]

theorem exact_extending {text : List Char} {cursor : Nat} {names : List String} {note : String}
    (hcursor : cursor ≤ text.length) (hword : word <:+ text.take cursor)
    (h : Completes commands bindings (text.take cursor) word (extending word names)) :
    Exact commands bindings text cursor
      ((extending word names).map fun name => ⟨name, word.length, note⟩) := by
  refine ⟨word, ?_, fun c hc => ?_⟩
  · rw [List.map_map]
    exact (List.map_id _).symm ▸ h
  · obtain ⟨name, hname, rfl⟩ := List.mem_map.1 hc
    exact extends_of_suffix hcursor hword (mem_extending.1 hname).2

theorem TypesCommand.suffix (h : TypesCommand before word) : word <:+ before := by
  obtain ⟨blanks, rfl, -⟩ := h.pointed
  exact ⟨blanks ++ ['.'], by simp⟩

def Overlooks (bindings : List String) (before : List Char) : Prop :=
  (∀ w, ¬ TypesCommand before w) ∧
    ∃ front word, before = front ++ ['\n'] ∧ TypesName front word ∧
      ∃ name ∈ bindings, word <+: name.toList

theorem exact_of_not_overlooks {text : List Char} {cursor : Nat}
    (hcommands : commands.Pairwise (· < ·)) (hbindings : bindings.Nodup)
    (hcursor : cursor ≤ text.length) (h : ¬ Overlooks bindings (text.take cursor)) :
    Exact commands bindings text cursor (completions commands bindings (text.take cursor)) := by
  cases hcommand : typedCommand? (text.take cursor) with
  | some word =>
      have htypes := typedCommand?_eq_some.1 hcommand
      rw [completions_command htypes]
      exact exact_extending hcursor htypes.suffix
        (.command htypes (offers_extending hcommands word))
  | none =>
      have hnone := typedCommand?_eq_none.1 hcommand
      cases hname : typedName? (text.take cursor) with
      | none =>
          rw [completions_nothing hnone hname]
          refine ⟨[], .nothing hnone fun w hw => ?_, by simp⟩
          rw [typedName?_eq_some.2 (.inl hw)] at hname
          cases hname
      | some word =>
          rw [completions_name hnone hname]
          rcases typedName?_eq_some.1 hname with htypes | ⟨front, hfront, htypes⟩
          · exact exact_extending hcursor htypes.atEnd
              (.name hnone htypes (offers_sortedNames hbindings word))
          · have hnames : extending word (sortedNames bindings) = [] := by
              refine List.eq_nil_iff_forall_not_mem.2 fun name hmem => ?_
              obtain ⟨hbound, hpre⟩ := mem_extending_sortedNames.1 hmem
              exact h ⟨hnone, front, word, hfront, htypes, name, hbound, hpre⟩
            rw [hnames]
            refine ⟨[], .nothing hnone fun w => ?_, by simp⟩
            rw [hfront]
            exact not_typesName_break

namespace Overlooks

theorem not_exact {text : List Char} {cursor : Nat} (h : Overlooks bindings (text.take cursor)) :
    ¬ Exact commands bindings text cursor
      (completions commands bindings (text.take cursor)) := by
  rintro ⟨typed, hcompletes, -⟩
  obtain ⟨hcommand, front, word, hfront, htypes, name, hname, hpre⟩ := h
  have hoffered : name ∈ (completions commands bindings (text.take cursor)).map (·.text) := by
    rw [completions_name hcommand (typedName?_eq_some.2 (.inr ⟨front, hfront, htypes⟩)),
      List.map_map]
    exact List.mem_map.2 ⟨name, mem_extending_sortedNames.2 ⟨hname, hpre⟩, rfl⟩
  generalize (completions commands bindings (text.take cursor)).map (·.text) = names
    at hcompletes hoffered
  cases hcompletes with
  | command h => exact hcommand _ h
  | name _ h =>
      rw [hfront] at h
      exact not_typesName_break h
  | nothing => cases hoffered

theorem not_prefix (h : Overlooks bindings before) {c : Completion}
    (hc : c ∈ completions commands bindings before) :
    ¬ before.rtake c.replaces <+: c.text.toList := by
  obtain ⟨hcommand, front, word, rfl, htypes, -⟩ := h
  rw [completions_name hcommand (typedName?_break.2 htypes)] at hc
  obtain ⟨name, hname, rfl⟩ := List.mem_map.1 hc
  have hword := (mem_extending_sortedNames.1 hname).2
  have hshort := htypes.atEnd.length_le
  obtain ⟨start, more, rfl, hstart, hmore⟩ := htypes.name
  intro hpre
  have hpre' : front.rtake more.length ++ ['\n'] <+: name.toList := by
    rwa [← List.rtake_concat_succ]
  have hlen : (front.rtake more.length ++ ['\n']).length = (start :: more).length := by
    simp only [List.rtake, List.length_append, List.length_drop, List.length_cons,
      List.length_nil] at hshort ⊢
    omega
  have heq := (List.prefix_of_prefix_length_le hpre' hword hlen.le).eq_of_length hlen
  have hbreak : '\n' ∈ start :: more := heq ▸ List.mem_append_right _ (List.mem_singleton_self _)
  rcases List.mem_cons.1 hbreak with rfl | hbreak
  · exact absurd hstart (by decide)
  · exact absurd (hmore _ hbreak) (by decide)

theorem completions_dropLast (h : Overlooks bindings before) (commands : List String) :
    completions commands bindings before = completions commands bindings before.dropLast := by
  obtain ⟨hcommand, front, word, rfl, htypes, -⟩ := h
  have hfront : ∀ w, ¬ TypesCommand front w := by
    rintro w ⟨⟨blanks, rfl, hblanks⟩, hspace⟩
    exact hcommand (w ++ ['\n']) ⟨⟨blanks, by simp, hblanks⟩, by simp [hspace]⟩
  rw [List.dropLast_concat, completions_name hcommand (typedName?_break.2 htypes),
    completions_name hfront (typedName?_eq_some.2 (.inl htypes))]

end Overlooks

theorem completions_exact_iff {α : Type} {builtins custom : List (Command α)}
    {allowed denied : List String} {registry : Registry α} {text : List Char} {cursor : Nat}
    (hregistry : registry = .build builtins custom allowed denied) (hbindings : bindings.Nodup)
    (hbefore : textBefore text cursor = .ok before) :
    (Exact registry.names bindings text cursor (completions registry.names bindings before) ↔
        ¬ Overlooks bindings before) ∧
      (Overlooks bindings before →
        (∀ c ∈ completions registry.names bindings before,
          ¬ before.rtake c.replaces <+: c.text.toList) ∧
        completions registry.names bindings before =
          completions registry.names bindings before.dropLast) := by
  obtain ⟨hcursor, rfl⟩ := textBefore_eq_ok.1 hbefore
  have hnames : registry.names.Pairwise (· < ·) := by
    rw [hregistry]
    exact (Registry.increasing_build builtins custom allowed denied).coherent.increasing
  refine ⟨⟨fun hexact h => h.not_exact hexact, ?_⟩, fun h => ⟨fun c => h.not_prefix, ?_⟩⟩
  · exact exact_of_not_overlooks hnames hbindings hcursor
  · exact h.completions_dropLast registry.names

def typedCall : List Char :=
  ['G', 'e', 't', '(', 'C', 'o', 'l', 'l', ')']

def someBindings : List String :=
  ["Collections", "Get", "Collection"]

def exitTable : Registry Nat :=
  .build [⟨"exit", "Exit", 0⟩] [] ["exit"] []

theorem completions_exact_iff_typedCall :
    someBindings.Nodup ∧ textBefore typedCall 8 = .ok ['G', 'e', 't', '(', 'C', 'o', 'l', 'l'] ∧
      ¬ Overlooks someBindings ['G', 'e', 't', '(', 'C', 'o', 'l', 'l'] ∧
      completions exitTable.names someBindings ['G', 'e', 't', '(', 'C', 'o', 'l', 'l'] =
        [⟨"Collection", 4, "FQL"⟩, ⟨"Collections", 4, "FQL"⟩] ∧
      Exact exitTable.names someBindings typedCall 8
        [⟨"Collection", 4, "FQL"⟩, ⟨"Collections", 4, "FQL"⟩] := by
  have hbindings : someBindings.Nodup := by decide
  have hbefore : textBefore typedCall 8 = .ok ['G', 'e', 't', '(', 'C', 'o', 'l', 'l'] := rfl
  have hplain : ¬ Overlooks someBindings ['G', 'e', 't', '(', 'C', 'o', 'l', 'l'] := by
    rintro ⟨-, front, _, hfront, -⟩
    have hlast := congrArg List.getLast? hfront
    rw [List.getLast?_concat] at hlast
    exact absurd hlast (by decide)
  have hsorted : sortedNames someBindings = ["Collection", "Collections", "Get"] := by
    simp [sortedNames, someBindings, List.mergeSort, List.MergeSort.Internal.splitInTwo]
  have hoffered : completions exitTable.names someBindings
      ['G', 'e', 't', '(', 'C', 'o', 'l', 'l'] =
        [⟨"Collection", 4, "FQL"⟩, ⟨"Collections", 4, "FQL"⟩] := by
    simp only [completions, hsorted]
    decide
  have hregistry : exitTable = .build [⟨"exit", "Exit", 0⟩] [] ["exit"] [] := rfl
  have hexact := (completions_exact_iff hregistry hbindings hbefore).1.2 hplain
  exact ⟨hbindings, hbefore, hplain, hoffered, hoffered ▸ hexact⟩

def brokenName : List Char :=
  ['G', 'e', 't', '\n']

/-- The name is offered for the three characters before the cursor, which leaves its first one. -/
theorem completions_brokenName :
    textBefore brokenName 4 = .ok brokenName ∧
      ⟨"Get", 3, "FQL"⟩ ∈
        completions shellCommands.names (Query.catalogueScope.map Prod.fst) brokenName ∧
      brokenName.rtake 3 = ['e', 't', '\n'] ∧
      Completion.applied ⟨"Get", 3, "FQL"⟩ brokenName 4 = ['G', 'G', 'e', 't'] ∧
      ¬ Exact shellCommands.names (Query.catalogueScope.map Prod.fst) brokenName 4
        (completions shellCommands.names (Query.catalogueScope.map Prod.fst) brokenName) := by
  have hcommand : ∀ w, ¬ TypesCommand brokenName w := typedCommand?_eq_none.1 rfl
  have htypes : TypesName ['G', 'e', 't'] ['G', 'e', 't'] := typesName_iff.2 (by decide)
  have hbound : "Get" ∈ Query.catalogueScope.map Prod.fst := by decide
  have hpre : ['G', 'e', 't'] <+: "Get".toList := by decide
  have hoverlooks : Overlooks (Query.catalogueScope.map Prod.fst) brokenName :=
    ⟨hcommand, ['G', 'e', 't'], _, rfl, htypes, "Get", hbound, hpre⟩
  refine ⟨rfl, ?_, rfl, rfl, hoverlooks.not_exact⟩
  rw [completions_name hcommand (typedName?_break.2 htypes)]
  exact List.mem_map.2 ⟨"Get", mem_extending_sortedNames.2 ⟨hbound, hpre⟩, rfl⟩

end QueryShell.Session
