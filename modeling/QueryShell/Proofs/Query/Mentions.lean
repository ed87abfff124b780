import QueryShell.Proofs.Computation
import QueryShell.Query.Evaluation

namespace QueryShell.Query

open Statement (Node)

inductive Mention where
  | identifier (name : String)
  | call (name : String)

def Mention.name : Mention → String
  | .identifier name | .call name => name

def Mention.Bound (scope : Scope) : Mention → Prop
  | .identifier name => ∃ v, scope.lookup name = some v
  | .call name => ∃ h, scope.lookup name = some (.helper h)

mutual

def mentions : Node → List Mention
  | .literal _ | .stray _ => []
  | .identifier name => [.identifier name]
  | .call name args => .call name :: mentionsOfAll args
  | .array items => mentionsOfAll items
  | .object pairs => mentionsOfPairs pairs
termination_by structural node => node

def mentionsOfAll : List Node → List Mention
  | [] => []
  | node :: nodes => mentions node ++ mentionsOfAll nodes
termination_by structural nodes => nodes

def mentionsOfPairs : List (Str × Node) → List Mention
  | [] => []
  | (_, node) :: pairs => mentions node ++ mentionsOfPairs pairs
termination_by structural pairs => pairs

end

def AgreeOn (ms : List Mention) (scope scope' : Scope) : Prop :=
  ∀ m ∈ ms, scope.lookup m.name = scope'.lookup m.name

theorem AgreeOn.left {ms ns : List Mention} {scope scope' : Scope}
    (h : AgreeOn (ms ++ ns) scope scope') : AgreeOn ms scope scope' :=
  fun m hm => h m (List.mem_append_left ns hm)

theorem AgreeOn.right {ms ns : List Mention} {scope scope' : Scope}
    (h : AgreeOn (ms ++ ns) scope scope') : AgreeOn ns scope scope' :=
  fun m hm => h m (List.mem_append_right ms hm)

theorem lookup_congr {scope scope' : Scope} {name : String}
    (h : scope.lookup name = scope'.lookup name) : lookup scope name = lookup scope' name := by
  rw [lookup, lookup, h]

theorem lookupHelper_congr {scope scope' : Scope} {name : String}
    (h : scope.lookup name = scope'.lookup name) :
    lookupHelper scope name = lookupHelper scope' name := by
  rw [lookupHelper, lookupHelper, lookup_congr h]

mutual

theorem evaluate_congr {scope scope' : Scope} (node : Node)
    (h : AgreeOn (mentions node) scope scope') : evaluate scope node = evaluate scope' node := by
  cases node with
  | literal v => rfl
  | stray v => rfl
  | identifier name =>
      have hname := h (.identifier name) (List.mem_singleton.2 rfl)
      exact lookup_congr hname
  | call name args =>
      have hname : scope.lookup name = scope'.lookup name := h _ (List.mem_cons_self ..)
      have hargs := evaluateAll_congr args fun m hm => h m (List.mem_cons_of_mem _ hm)
      simp only [evaluate, lookupHelper_congr hname, hargs]
  | array items =>
      have hitems := evaluateAll_congr items h
      simp only [evaluate, hitems]
  | object pairs =>
      have hpairs := evaluatePairs_congr pairs h
      simp only [evaluate, hpairs]

theorem evaluateAll_congr {scope scope' : Scope} (nodes : List Node)
    (h : AgreeOn (mentionsOfAll nodes) scope scope') :
    evaluateAll scope nodes = evaluateAll scope' nodes := by
  cases nodes with
  | nil => rfl
  | cons node nodes =>
      simp only [evaluateAll, evaluate_congr node h.left, evaluateAll_congr nodes h.right]

theorem evaluatePairs_congr {scope scope' : Scope} (pairs : List (Str × Node))
    (h : AgreeOn (mentionsOfPairs pairs) scope scope') :
    evaluatePairs scope pairs = evaluatePairs scope' pairs := by
  cases pairs with
  | nil => rfl
  | cons pair pairs =>
      obtain ⟨key, node⟩ := pair
      simp only [evaluatePairs, evaluate_congr node h.left, evaluatePairs_congr pairs h.right]

end

theorem bound_of_lookup {scope : Scope} {name : String} {v : Value}
    (h : lookup scope name = .ok v) : scope.lookup name = some v := by
  unfold lookup at h
  split at h
  · next w hw =>
      cases h
      exact hw
  · cases h

theorem bound_of_lookupHelper {scope : Scope} {name : String} {helper : Helper}
    (h : lookupHelper scope name = .ok helper) : scope.lookup name = some (.helper helper) := by
  obtain ⟨v, hv, hhelper⟩ := bind_ok.1 h
  split at hhelper
  · cases hhelper
    exact bound_of_lookup hv
  · cases hhelper

mutual

theorem bound_of_evaluate {scope : Scope} (node : Node) {v : Value}
    (h : evaluate scope node = .ok v) : ∀ m ∈ mentions node, m.Bound scope := by
  cases node with
  | literal w => simp [mentions]
  | stray w => simp [mentions]
  | identifier name =>
      intro m hm
      rw [List.mem_singleton.1 hm]
      exact ⟨v, bound_of_lookup h⟩
  | call name args =>
      obtain ⟨helper, hhelper, hcall⟩ := bind_ok.1 h
      obtain ⟨vs, hargs, -⟩ := bind_ok.1 hcall
      intro m hm
      rcases List.mem_cons.1 hm with rfl | hm
      · exact ⟨helper, bound_of_lookupHelper hhelper⟩
      · exact bound_of_evaluateAll args hargs m hm
  | array items =>
      obtain ⟨vs, hitems, -⟩ := bind_ok.1 h
      exact bound_of_evaluateAll items hitems
  | object pairs =>
      obtain ⟨entries, hpairs, -⟩ := bind_ok.1 h
      exact bound_of_evaluatePairs pairs hpairs

theorem bound_of_evaluateAll {scope : Scope} (nodes : List Node) {vs : List Value}
    (h : evaluateAll scope nodes = .ok vs) : ∀ m ∈ mentionsOfAll nodes, m.Bound scope := by
  cases nodes with
  | nil => simp [mentionsOfAll]
  | cons node nodes =>
      obtain ⟨v, hnode, hrest⟩ := bind_ok.1 h
      obtain ⟨ws, hnodes, -⟩ := bind_ok.1 hrest
      intro m hm
      rcases List.mem_append.1 hm with hm | hm
      · exact bound_of_evaluate node hnode m hm
      · exact bound_of_evaluateAll nodes hnodes m hm

theorem bound_of_evaluatePairs {scope : Scope} (pairs : List (Str × Node))
    {entries : List (Str × Value)} (h : evaluatePairs scope pairs = .ok entries) :
    ∀ m ∈ mentionsOfPairs pairs, m.Bound scope := by
  cases pairs with
  | nil => simp [mentionsOfPairs]
  | cons pair pairs =>
      obtain ⟨key, node⟩ := pair
      obtain ⟨v, hnode, hrest⟩ := bind_ok.1 h
      obtain ⟨more, hpairs, -⟩ := bind_ok.1 hrest
      intro m hm
      rcases List.mem_append.1 hm with hm | hm
      · exact bound_of_evaluate node hnode m hm
      · exact bound_of_evaluatePairs pairs hpairs m hm

end

theorem evaluate_sees_mentions (node : Node) :
    (∀ scope scope', AgreeOn (mentions node) scope scope' →
      evaluate scope node = evaluate scope' node) ∧
      ∀ scope v, evaluate scope node = .ok v → ∀ m ∈ mentions node, m.Bound scope :=
  ⟨fun _ _ h => evaluate_congr node h, fun _ _ h => bound_of_evaluate node h⟩

def overwrittenCall : Node :=
  .object [("a", .call "F" [.identifier "x"]), ("a", .identifier "y")]

def smallScope : Scope :=
  [("x", .null), ("F", .helper (unary "F" "f" "f" "x")), ("y", .bool true), ("z", .int 1)]

theorem evaluate_sees_mentions_overwrittenCall :
    AgreeOn (mentions overwrittenCall) smallScope (smallScope.dropLast.reverse) ∧
      evaluate smallScope overwrittenCall = evaluate smallScope.dropLast.reverse overwrittenCall ∧
      ∃ v, evaluate smallScope overwrittenCall = .ok v ∧
        (Mention.call "F").Bound smallScope := by
  have hagree : AgreeOn (mentions overwrittenCall) smallScope smallScope.dropLast.reverse := by
    intro m hm
    simp only [overwrittenCall, mentions, mentionsOfPairs, mentionsOfAll, List.append_nil,
      List.cons_append, List.nil_append, List.mem_cons, List.not_mem_nil, or_false] at hm
    rcases hm with rfl | rfl | rfl <;> rfl
  obtain ⟨v, hv⟩ : ∃ v, evaluate smallScope overwrittenCall = .ok v := ⟨_, rfl⟩
  have hcall : Mention.call "F" ∈ mentions overwrittenCall := List.mem_cons_self ..
  have hsees := evaluate_sees_mentions overwrittenCall
  exact ⟨hagree, hsees.1 _ _ hagree, v, hv, hsees.2 _ v hv _ hcall⟩

end QueryShell.Query
