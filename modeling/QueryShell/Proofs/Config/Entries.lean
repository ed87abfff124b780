import QueryShell.Proofs.Config.Lookup
import QueryShell.Proofs.Value.TextKeys
import Mathlib.Data.List.Forall2

namespace QueryShell.Config

open Yaml (Contents Data Document Scalar)

def Part.IsKey (d : Document) : Part → Prop
  | .whole data => ∃ key, d.contents data = .scalar key
  | .pair first second =>
      (∃ key, d.contents first = .scalar key) ∧ ∃ key, d.contents second = .scalar key

def Part.name? (d : Document) : Part → Option Str
  | .whole data =>
      match d.contents data with
      | .scalar (.text name) => some name
      | _ => none
  | .pair .. => none

/-- The keys that contents give, each with its value. What is no mapping gives a key and a value
with each of its parts, if all of these have two parts. -/
inductive Gives (d : Document) : Contents → List (Part × Part) → Prop where
  | mapping (entries : List (Scalar × Data)) :
      Gives d (.dict entries) (entries.map fun e => (.whole (.scalar e.1), .whole e.2))
  | parts {contents : Contents} {parts : List Part} {pairs : List (Part × Part)} :
      (∀ entries, contents ≠ .dict entries) → partsOf? contents = some parts →
      List.Forall₂ (fun part pair => part.parts? d = some [pair.1, pair.2]) parts pairs →
      Gives d contents pairs

def settingsIn (d : Document) (pairs : List (Part × Part)) : Settings :=
  pairs.filterMap fun p => ((p.1.name? d).bind Str.text?).map fun name => (name, p.2.setting d)

def entryFrom (d : Document) (entry : Entry) (pairs : List (Part × Part)) : Entry :=
  ⟨(settingsIn d pairs).foldl (fun settings p => Value.putText settings p.1 p.2) entry.settings,
    entry.hasOtherKeys || pairs.any fun p => (p.1.name? d).isNone⟩

section

variable {d : Document} {entry result : Entry} {key value : Part} {pairs : List (Part × Part)}

theorem discard_ok {ε α : Type} {x : Except ε α} {u : Unit} :
    (discard x : Except ε Unit) = .ok u ↔ ∃ a, x = .ok a := by
  cases x with
  | error e => simp [discard, Functor.discard, Functor.mapConst, Except.map]
  | ok a => simp [discard, Functor.discard, Functor.mapConst, Except.map]

theorem put_ok : entry.put d key value = .ok result ↔
    key.IsKey d ∧ result = entryFrom d entry [(key, value)] := by
  cases key with
  | whole data =>
      simp only [Entry.put, Part.IsKey, bind_ok, keyOf_ok]
      constructor
      · rintro ⟨s, hs, h⟩
        refine ⟨⟨s, hs⟩, ?_⟩
        cases s with
        | text name =>
            cases htext : name.text? <;> simp only [htext] at h <;> cases h <;>
              simp [entryFrom, settingsIn, Part.name?, hs, htext]
        | _ => cases h; simp [entryFrom, settingsIn, Part.name?, hs]
      · rintro ⟨⟨s, hs⟩, rfl⟩
        refine ⟨s, hs, ?_⟩
        cases s with
        | text name =>
            cases htext : name.text? <;>
              simp [entryFrom, settingsIn, Part.name?, hs, htext] <;> rfl
        | _ => simp [entryFrom, settingsIn, Part.name?, hs]; rfl
  | pair first second =>
      simp only [Entry.put, Part.IsKey, bind_ok, discard_ok, keyOf_ok]
      constructor
      · rintro ⟨_, hfirst, _, hsecond, h⟩
        cases h
        exact ⟨⟨hfirst, hsecond⟩, by simp [entryFrom, settingsIn, Part.name?]⟩
      · rintro ⟨⟨hfirst, hsecond⟩, rfl⟩
        exact ⟨(), hfirst, (), hsecond, by simp [entryFrom, settingsIn, Part.name?]; rfl⟩

theorem entryFrom_cons {p : Part × Part} :
    entryFrom d entry (p :: pairs) = entryFrom d (entryFrom d entry [p]) pairs := by
  simp only [entryFrom, settingsIn]
  cases hname : p.1.name? d with
  | none => simp [hname]
  | some name => cases htext : name.text? <;> simp [hname, htext]

theorem foldlM_put_ok :
    pairs.foldlM (fun entry p => entry.put d p.1 p.2) entry = .ok result ↔
      (∀ p ∈ pairs, p.1.IsKey d) ∧ result = entryFrom d entry pairs := by
  induction pairs generalizing entry with
  | nil =>
      simp [entryFrom, settingsIn, pure, Except.pure, eq_comm]
  | cons p pairs ih =>
      rw [List.foldlM_cons, bind_ok, List.forall_mem_cons, entryFrom_cons]
      simp only [put_ok, ih]
      constructor
      · rintro ⟨next, ⟨hkey, rfl⟩, hkeys, hresult⟩
        exact ⟨⟨hkey, hkeys⟩, hresult⟩
      · rintro ⟨⟨hkey, hkeys⟩, hresult⟩
        exact ⟨_, ⟨hkey, rfl⟩, hkeys, hresult⟩

theorem putParts_ok {index : Nat} {parts : List Part} :
    putParts d entry index parts = .ok result ↔
      ∃ pairs : List (Part × Part),
        List.Forall₂ (fun part pair => part.parts? d = some [pair.1, pair.2]) parts pairs ∧
        pairs.foldlM (fun entry p => entry.put d p.1 p.2) entry = .ok result := by
  induction parts generalizing entry index with
  | nil =>
      constructor
      · intro h
        exact ⟨[], .nil, h⟩
      · rintro ⟨pairs, hpairs, h⟩
        cases hpairs
        exact h
  | cons part parts ih =>
      rw [putParts]
      constructor
      · intro h
        split at h
        · cases h
        · next key value hpart =>
          obtain ⟨next, hput, hrest⟩ := bind_ok.1 h
          obtain ⟨pairs, hpairs, hfold⟩ := ih.1 hrest
          exact ⟨(key, value) :: pairs, .cons hpart hpairs, bind_ok.2 ⟨next, hput, hfold⟩⟩
        · cases h
      · rintro ⟨pairs, hpairs, h⟩
        cases hpairs with
        | @cons _ pair _ pairs hpart hpairs =>
            obtain ⟨next, hput, hfold⟩ := bind_ok.1 h
            simp only [hpart]
            exact bind_ok.2 ⟨next, hput, ih.2 ⟨pairs, hpairs, hfold⟩⟩

theorem entryOf_dict (entries : List (Scalar × Data)) :
    entryOf d (.dict entries) =
      (entries.map fun e => (Part.whole (.scalar e.1), Part.whole e.2)).foldlM
        (fun entry p => entry.put d p.1 p.2) ⟨[], false⟩ := by
  rw [List.foldlM_map]
  rfl

theorem entryOf_parts {contents : Contents} (h : ∀ entries, contents ≠ .dict entries) :
    entryOf d contents = .ok result ↔
      ∃ parts, partsOf? contents = some parts ∧ putParts d ⟨[], false⟩ 0 parts = .ok result := by
  unfold entryOf
  split
  · next entries => exact absurd rfl (h entries)
  · split
    · next parts hparts => simp [hparts]
    · next hparts => simp [hparts]

theorem entryOf_ok {contents : Contents} :
    entryOf d contents = .ok result ↔
      ∃ pairs, Gives d contents pairs ∧ (∀ p ∈ pairs, p.1.IsKey d) ∧
        result = entryFrom d ⟨[], false⟩ pairs := by
  simp only [← foldlM_put_ok]
  constructor
  · intro h
    by_cases hdict : ∃ entries, contents = .dict entries
    · obtain ⟨entries, rfl⟩ := hdict
      exact ⟨_, .mapping entries, by rwa [← entryOf_dict]⟩
    · have hother : ∀ entries, contents ≠ .dict entries := fun entries heq => hdict ⟨entries, heq⟩
      obtain ⟨parts, hparts, hput⟩ := (entryOf_parts hother).1 h
      obtain ⟨pairs, hpairs, hfold⟩ := putParts_ok.1 hput
      exact ⟨pairs, .parts hother hparts hpairs, hfold⟩
  · rintro ⟨pairs, hgives, hfold⟩
    cases hgives with
    | mapping entries => rwa [entryOf_dict]
    | parts hother hparts hpairs =>
        exact (entryOf_parts hother).2 ⟨_, hparts, putParts_ok.2 ⟨pairs, hpairs, hfold⟩⟩

end

end QueryShell.Config
