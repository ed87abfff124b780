import QueryShell.Config.Resolution
import QueryShell.Proofs.Connection.Rejection

namespace QueryShell.Config

open Yaml (Contents Data Document)

def Unresolved.Worded (u : Unresolved) : Prop :=
  u.toFailure.Worded

def Refusal.Worded (r : Refusal) : Prop :=
  (Unresolved.refused r).Worded

theorem Refusal.worded_fault (fault : Fault) : (Refusal.fault fault).Worded :=
  Failure.worded_fault fault

theorem refuse_worded {α : Type} (message : Str) :
    FailsOnly Refusal.Worded (refuse message : Except Refusal α) :=
  .error ⟨message, rfl⟩

theorem orFault_worded {α : Type} (x : Except Fault α) : FailsOnly Refusal.Worded (orFault x) := by
  cases x with
  | ok a => exact .ok a
  | error fault => exact .error (Refusal.worded_fault fault)

theorem namedEntry_worded (path : String) (d : Document) (endpoints : Contents)
    (name : Data) :
    FailsOnly Refusal.Worded (do
      if !(d.contents name).isGiven then return ⟨[], false⟩
      if ← orFault (isAmong d endpoints name) then
        let entry ← orFault (entryUnder d endpoints name)
        orFault (entryOf d (orNone (d.contents entry)))
      else refuse (undefinedEndpoint (← orFault (d.stated name)) path)) := by
  split
  · exact .ok _
  · refine (orFault_worded _).bind fun found => ?_
    split
    · exact (orFault_worded _).bind fun entry => orFault_worded _
    · exact (orFault_worded _).bind fun stated => refuse_worded _

theorem endpointEntry_worded (path : String) (d : Document) (endpoint : String) :
    FailsOnly Refusal.Worded (endpointEntry path d endpoint) := by
  refine (orFault_worded _).bind fun field => ?_
  simp only
  split
  · exact (orFault_worded _).bind fun name => namedEntry_worded path d _ name
  · exact namedEntry_worded path d _ _

theorem configured_worded (s : Sources) : FailsOnly Refusal.Worded (configured s) := by
  unfold configured
  split
  · split
    · exact .ok _
    · exact refuse_worded _
  · split
    · exact endpointEntry_worded _ _ _
    · exact refuse_worded _
    · exact .error (Refusal.worded_fault _)

theorem optionsOfSettings_worded (settings : Settings) (hasOtherKeys : Bool) :
    FailsOnly Unresolved.Worded (optionsOfSettings settings hasOtherKeys) := by
  unfold optionsOfSettings
  split
  · exact .error ⟨missingSecret, rfl⟩
  · split
    · exact .error (Failure.worded_fault _)
    · intro u h
      cases hfields : optionsOf fun field => settings.lookup field.name with
      | ok options =>
          rw [hfields] at h
          cases h
      | error findings =>
          rw [hfields] at h
          cases h
          exact ⟨invalidOptions, rfl⟩

theorem resolve_worded (s : Sources) : FailsOnly Unresolved.Worded (resolve s) := by
  have hentry : FailsOnly Unresolved.Worded ((configured s).mapError .refused) :=
    (configured_worded s).mapError fun _ h => h
  exact hentry.bind fun entry => optionsOfSettings_worded _ entry.hasOtherKeys

end QueryShell.Config
