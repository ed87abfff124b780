import QueryShell.Proofs.Computation
import QueryShell.Query.Call

namespace QueryShell.Query

inductive Builds (given rest : List Value) : Body → Value → Prop where
  | fields (fields : List Field) : Builds given rest (.fields fields) (build fields rest given)
  | bindings {bindings body v : Value} : given = [bindings, body] → bind bindings body = .ok v →
      Builds given rest .bindings v
  | page {page : Value} : given = [page] →
      Builds given rest .page (.expr [(.str "paginate", page)])
  | options {page options : Value} {merged : List (Value × Value)} : given = [page, options] →
      Value.merge [(.str "paginate", page)] options = .ok merged →
      Builds given rest .page (.expr merged)

theorem builds_of_call {h : Helper} {args : List Value} {v : Value} (hcall : h.call args = .ok v) :
    h.mismatch? args.length = none ∧
      Builds (args.take h.parameters.length) (args.drop h.parameters.length) h.body v := by
  unfold Helper.call at hcall
  split at hcall
  · cases hcall
  · next hfits =>
      refine ⟨hfits, ?_⟩
      simp only at hcall
      generalize args.take h.parameters.length = given at hcall
      split at hcall
      · next fields hbody =>
          cases hcall
          rw [hbody]
          exact .fields fields
      · next bindings body hbody =>
          rw [hbody]
          exact .bindings rfl hcall
      · next page hbody =>
          cases hcall
          rw [hbody]
          exact .page rfl
      · next page options hbody =>
          obtain ⟨merged, hmerged, heq⟩ := bind_ok.1 hcall
          cases heq
          rw [hbody]
          exact .options rfl hmerged
      · cases hcall

theorem required_le {h : Helper} {count : Nat} (hfits : h.mismatch? count = none) :
    h.required.length ≤ count := by
  simp only [Helper.mismatch?] at hfits
  split at hfits
  · cases hfits
  · split at hfits
    · cases hfits
    · next hmany => exact Nat.le_of_not_lt hmany

theorem le_parameters {h : Helper} {count : Nat} (hfits : h.mismatch? count = none)
    (hfixed : h.variadic = false) : count ≤ h.parameters.length := by
  simp only [Helper.mismatch?, hfixed] at hfits
  split at hfits
  · cases hfits
  · next hfew => simpa using hfew

theorem required_le_given {h : Helper} {args : List Value}
    (hfits : h.mismatch? args.length = none) :
    h.required.length ≤ (args.take h.parameters.length).length := by
  have hleast := required_le hfits
  simp only [Helper.parameters, List.length_take, List.length_append]
  omega

def Opening (key : Value) (fields : List (Value × Value)) : Prop :=
  ∃ v rest, fields = (key, v) :: rest

section

variable {first key value added : Value} {fields merged items : List (Value × Value)}

theorem Opening.put (h : Opening first fields) (key value : Value) :
    Opening first (Value.put fields key value) := by
  obtain ⟨v, rest, rfl⟩ := h
  rw [Value.put]
  split
  · exact ⟨value, rest, rfl⟩
  · exact ⟨v, Value.put rest key value, rfl⟩

theorem Opening.putAll (h : Opening first fields) (entries : List (Value × Value)) :
    Opening first (Value.putAll fields entries) := by
  unfold Value.putAll
  induction entries generalizing fields with
  | nil => exact h
  | cons e entries ih => exact ih (h.put e.1 e.2)

theorem Opening.putEntry {index : Nat} {item : Value} (h : Opening first fields)
    (hmerged : Value.putEntry fields index item = .ok merged) : Opening first merged := by
  unfold Value.putEntry at hmerged
  split at hmerged
  · cases hmerged
  · next key value hparts =>
      obtain ⟨-, -, heq⟩ := bind_ok.1 hmerged
      cases heq
      exact h.put key value
  · cases hmerged

theorem Opening.putEntries {items : List Value} {index : Nat} (h : Opening first fields)
    (hmerged : Value.putEntries fields index items = .ok merged) : Opening first merged := by
  induction items generalizing fields index with
  | nil =>
      cases hmerged
      exact h
  | cons item items ih =>
      obtain ⟨next, hnext, hrest⟩ := bind_ok.1 hmerged
      exact ih (h.putEntry hnext) hrest

theorem Opening.merge (h : Opening first fields)
    (hmerged : Value.merge fields added = .ok merged) : Opening first merged := by
  unfold Value.merge at hmerged
  split at hmerged
  · cases hmerged
    exact h
  · split at hmerged
    · cases hmerged
      exact h.putAll _
    · split at hmerged
      · exact h.putEntries hmerged
      · cases hmerged

end

end QueryShell.Query
