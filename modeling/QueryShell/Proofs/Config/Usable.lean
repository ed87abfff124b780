import QueryShell.Proofs.Config.Entries
import QueryShell.Proofs.Config.Precedence

namespace QueryShell.Config

open Connection (Options)
open Yaml (Contents Data Document Scalar)

structure Valid (o : Options) : Prop where
  secret : o.secret ≠ ""
  scheme : o.scheme = "http" ∨ o.scheme = "https"
  port : 1 ≤ o.port ∧ o.port ≤ 65535
  timeout : ∀ seconds, o.timeout = some seconds → 0.0 < seconds

inductive Declared : Except Unresolved Options → Prop where
  | options {o : Options} : Valid o → Declared (.ok o)
  | error {u : Unresolved} {e : ShellError} :
      u.toFailure = .reported e → e.cause = .configuration → Declared (.error u)

inductive Top (d : Document) : List (Scalar × Data) → Prop where
  | mapping {fields : List (Scalar × Data)} : d.contents d.root = .dict fields → Top d fields
  | missing : (d.contents d.root).isGiven = false → Top d []

def fieldIn (fields : List (Scalar × Data)) (name : String) : Data :=
  (Yaml.under? fields (.text name)).getD (.scalar .null)

inductive Asks (d : Document) (endpoint : String) : Contents → Data → Prop where
  | named {fields : List (Scalar × Data)} : Top d fields → endpoint ≠ "" →
      Asks d endpoint (orNone (d.contents (fieldIn fields "endpoints"))) (.scalar (.text endpoint))
  | default {fields : List (Scalar × Data)} : Top d fields → endpoint = "" →
      Asks d endpoint (orNone (d.contents (fieldIn fields "endpoints"))) (fieldIn fields "default")

def Sources.HasSecret (s : Sources) (settings : Settings) : Prop :=
  ∃ found, Counts s settings .secret (some found) ∧ found.isGiven = true

def lastFirst (d : Document) (pairs : List (Part × Part)) : Settings :=
  (settingsIn d pairs).reverse

/-- A document that names no endpoint, one that it does not define, or one whose entry gives
settings. Keys that are no text do no harm only where the secret is missing. -/
inductive Sources.Fits (s : Sources) (d : Document) : Prop where
  | nameless {endpoints : Contents} {name : Data} :
      Asks d s.endpoint endpoints name → (d.contents name).isGiven = false → s.Fits d
  | undefined {endpoints : Contents} {name : Data} :
      Asks d s.endpoint endpoints name → (d.contents name).isGiven = true →
      Search d name endpoints false → Returns (d.stated name) → s.Fits d
  | defined {endpoints : Contents} {name entry : Data} {pairs : List (Part × Part)} :
      Asks d s.endpoint endpoints name → (d.contents name).isGiven = true →
      Search d name endpoints true → Holds d name endpoints entry →
      Gives d (orNone (d.contents entry)) pairs → (∀ p ∈ pairs, p.1.IsKey d) →
      ((∀ p ∈ pairs, (p.1.name? d).isSome = true) ∨ ¬ s.HasSecret (lastFirst d pairs)) →
      s.Fits d

def Sources.Usable (s : Sources) : Prop :=
  ∀ text, s.configuration = some text →
    Yaml.read text = .error .malformed ∨ ∃ d, Yaml.read text = .ok d ∧ s.Fits d

theorem orDefault_ok {α : Type} {check : Setting → Except Problem α} {usual : Except Problem α}
    {setting : Option Setting} {a : α} (h : orDefault check usual setting = .ok a) :
    usual = .ok a ∨ ∃ found, check found = .ok a := by
  cases setting with
  | none => exact .inl h
  | some found => exact .inr ⟨found, h⟩

theorem checkSecret_ok {setting : Setting} {secret : String}
    (h : checkSecret setting = .ok secret) : secret ≠ "" := by
  obtain ⟨text, -, hrest⟩ := bind_ok.1 h
  split at hrest
  · cases hrest
  · next hne =>
    cases hrest
    simpa using hne

theorem checkScheme_ok {setting : Setting} {scheme : String}
    (h : checkScheme setting = .ok scheme) : scheme = "http" ∨ scheme = "https" := by
  unfold checkScheme at h
  split at h
  · split at h
    · next hscheme =>
      cases h
      simpa [schemes] using hscheme
    · cases h
  · cases h

theorem checkPort_ok {setting : Setting} {port : Nat} (h : checkPort setting = .ok port) :
    1 ≤ port ∧ port ≤ 65535 := by
  obtain ⟨n, -, hrest⟩ := bind_ok.1 h
  split at hrest
  · cases hrest
  · split at hrest
    · cases hrest
    · cases hrest
      omega

theorem checkTimeout_ok {setting : Setting} {timeout : Option Float}
    (h : checkTimeout setting = .ok timeout) :
    ∀ seconds, timeout = some seconds → 0.0 < seconds := by
  intro seconds hsome
  unfold checkTimeout at h
  split at h
  · cases h
    cases hsome
  · obtain ⟨x, -, hrest⟩ := bind_ok.1 h
    split at hrest
    · next hpositive =>
      cases hrest
      cases hsome
      exact hpositive
    · cases hrest

theorem optionsOf_valid {setting : Field → Option Setting} {o : Options}
    (h : optionsOf setting = .ok o) : Valid o := by
  unfold optionsOf at h
  simp only at h
  split at h
  · next secret domain scheme port timeout hsecret hdomain hscheme hport htimeout =>
    cases h
    refine ⟨?_, ?_, ?_, ?_⟩
    · rcases orDefault_ok hsecret with h | ⟨found, h⟩
      · cases h
      · exact checkSecret_ok h
    · rcases orDefault_ok hscheme with h | ⟨found, h⟩
      · cases h
        exact .inr rfl
      · exact checkScheme_ok h
    · rcases orDefault_ok hport with h | ⟨found, h⟩
      · cases h
        have hdefault : 1 ≤ Connection.defaultPort ∧ Connection.defaultPort ≤ 65535 := by decide
        exact hdefault
      · exact checkPort_ok h
    · rcases orDefault_ok htimeout with h | ⟨found, h⟩
      · cases h
        intro seconds hnone
        cases hnone
      · exact checkTimeout_ok h
  · cases h

theorem declared_optionsOfSettings {settings : Settings} {hasOtherKeys : Bool} :
    Declared (optionsOfSettings settings hasOtherKeys) ↔
      (hasOtherKeys = true → ((settings.lookup Field.secret.name).getD .null).isGiven = false) := by
  unfold optionsOfSettings
  cases hsecret : ((settings.lookup Field.secret.name).getD .null).isGiven with
  | false => simpa using Declared.error rfl rfl
  | true =>
      cases hasOtherKeys with
      | true =>
          simp only [Bool.not_true, Bool.false_eq_true, if_false, if_true]
          constructor
          · intro h
            cases h with
            | error hfailure => cases hfailure
          · intro h
            cases h trivial
      | false =>
          simp only [Bool.not_true, Bool.false_eq_true, if_false, false_implies, iff_true]
          cases hoptions : optionsOf fun field => settings.lookup field.name with
          | ok o => exact .options (optionsOf_valid hoptions)
          | error found => exact .error rfl rfl

def entryNamed (path : String) (d : Document) (endpoints : Contents) (name : Data) :
    Except Refusal Entry := do
  if !(d.contents name).isGiven then return ⟨[], false⟩
  if ← orFault (isAmong d endpoints name) then
    let entry ← orFault (entryUnder d endpoints name)
    orFault (entryOf d (orNone (d.contents entry)))
  else refuse (undefinedEndpoint (← orFault (d.stated name)) path)

section

variable {path endpoint : String} {d : Document} {endpoints : Contents} {name : Data}
  {entry : Entry}

theorem top_iff {fields : List (Scalar × Data)} :
    Top d fields ↔ orNone (d.contents d.root) = .dict fields := by
  unfold orNone
  constructor
  · intro h
    cases h with
    | mapping hroot =>
        rw [hroot]
        cases fields <;> rfl
    | missing hroot => rw [hroot, if_neg Bool.false_ne_true]
  · intro h
    split at h
    · exact .mapping h
    · next hroot =>
      cases h
      exact .missing (Bool.not_eq_true _ ▸ hroot)

theorem Asks.endpointEntry (h : Asks d endpoint endpoints name) :
    endpointEntry path d endpoint = entryNamed path d endpoints name := by
  cases h with
  | named htop hendpoint =>
      simp only [Config.endpointEntry, top_iff.1 htop, fieldOf, beq_false_of_ne hendpoint]
      rfl
  | default htop hendpoint =>
      subst hendpoint
      simp only [Config.endpointEntry, top_iff.1 htop, fieldOf]
      rfl

theorem exists_asks {fields : List (Scalar × Data)} (h : Top d fields) (endpoint : String) :
    ∃ endpoints name, Asks d endpoint endpoints name := by
  by_cases hendpoint : endpoint = ""
  · exact ⟨_, _, .default h hendpoint⟩
  · exact ⟨_, _, .named h hendpoint⟩

theorem endpointEntry_fault (h : ¬ ∃ fields, Top d fields) :
    ∃ f, endpointEntry path d endpoint = .error (.fault f) := by
  have hfield : ∃ f, fieldOf (orNone (d.contents d.root)) "endpoints" = .error f := by
    unfold fieldOf
    split
    · next fields hroot => exact absurd ⟨fields, top_iff.2 hroot⟩ h
    · exact ⟨_, rfl⟩
  obtain ⟨f, hf⟩ := hfield
  refine ⟨f, ?_⟩
  simp only [endpointEntry, hf]
  rfl

theorem entryNamed_nameless (hgiven : (d.contents name).isGiven = false) :
    entryNamed path d endpoints name = .ok ⟨[], false⟩ := by
  simp only [entryNamed, hgiven]
  rfl

theorem orFault_ok {α : Type} {x : Except Fault α} {a : α} : orFault x = .ok a ↔ x = .ok a := by
  cases x <;> simp [orFault, Except.mapError]

theorem orFault_ne_failed {α : Type} {x : Except Fault α} {e : ShellError} :
    orFault x ≠ .error (.failed e) := by
  cases x <;> simp [orFault, Except.mapError]

theorem entryNamed_ok (hgiven : (d.contents name).isGiven = true) :
    entryNamed path d endpoints name = .ok entry ↔
      ∃ found pairs, Search d name endpoints true ∧ Holds d name endpoints found ∧
        Gives d (orNone (d.contents found)) pairs ∧ (∀ p ∈ pairs, p.1.IsKey d) ∧
        entry = entryFrom d ⟨[], false⟩ pairs := by
  simp only [entryNamed, hgiven, Bool.not_true, Bool.false_eq_true, if_false, bind_ok, orFault_ok,
    isAmong_ok]
  constructor
  · rintro ⟨found, hsearch, h⟩
    cases found with
    | false =>
        obtain ⟨stated, -, hrefuse⟩ := bind_ok.1 h
        cases hrefuse
    | true =>
        obtain ⟨data, hdata, hentry⟩ := bind_ok.1 h
        obtain ⟨pairs, hgives, hkeys, rfl⟩ := entryOf_ok.1 (orFault_ok.1 hentry)
        exact ⟨data, pairs, hsearch, holds_of_entryUnder hsearch (orFault_ok.1 hdata), hgives,
          hkeys, rfl⟩
  · rintro ⟨data, pairs, hsearch, hholds, hgives, hkeys, rfl⟩
    refine ⟨true, hsearch, bind_ok.2 ⟨data, orFault_ok.2 hholds.entryUnder, ?_⟩⟩
    exact orFault_ok.2 (entryOf_ok.2 ⟨pairs, hgives, hkeys, rfl⟩)

theorem entryNamed_failed {e : ShellError} (hgiven : (d.contents name).isGiven = true) :
    entryNamed path d endpoints name = .error (.failed e) ↔
      Search d name endpoints false ∧ ∃ stated, d.stated name = .ok stated ∧
        e = .configuration (undefinedEndpoint stated path) := by
  simp only [entryNamed, hgiven, Bool.not_true, Bool.false_eq_true, if_false, bind_error,
    orFault_ok, orFault_ne_failed, isAmong_ok, false_or]
  constructor
  · rintro ⟨found, hsearch, h⟩
    cases found with
    | false =>
        rcases bind_error.1 h with h | ⟨stated, hstated, hrefuse⟩
        · exact absurd h orFault_ne_failed
        · cases hrefuse
          exact ⟨hsearch, stated, orFault_ok.1 hstated, rfl⟩
    | true =>
        rcases bind_error.1 h with h | ⟨data, -, h⟩
        · exact absurd h orFault_ne_failed
        · exact absurd h orFault_ne_failed
  · rintro ⟨hsearch, stated, hstated, rfl⟩
    refine ⟨false, hsearch, bind_error.2 (.inr ⟨stated, orFault_ok.2 hstated, rfl⟩)⟩

end

inductive Sources.Settles (s : Sources) : Except Refusal Entry → Prop where
  | entry {entry : Entry} :
      (entry.hasOtherKeys = true →
        (((merged s entry.settings).lookup Field.secret.name).getD .null).isGiven = false) →
      s.Settles (.ok entry)
  | failed {e : ShellError} : e.cause = .configuration → s.Settles (.error (.failed e))

theorem declared_resolve_iff {s : Sources} : Declared (resolve s) ↔ s.Settles (configured s) := by
  cases hentry : configured s with
  | ok entry =>
      have hresolve : resolve s =
          optionsOfSettings (merged s entry.settings) entry.hasOtherKeys := by
        rw [resolve, hentry]
        rfl
      rw [hresolve, declared_optionsOfSettings]
      constructor
      · exact .entry
      · intro h
        cases h with
        | entry h => exact h
  | error u =>
      have hresolve : resolve s = .error (.refused u) := by
        rw [resolve, hentry]
        rfl
      rw [hresolve]
      constructor
      · intro h
        cases h with
        | @error _ e hfailure hcause =>
            cases u with
            | failed e' =>
                cases hfailure
                exact .failed hcause
            | fault f => cases hfailure
      · intro h
        cases h with
        | failed hcause => exact .error rfl hcause

theorem hasOtherKeys_entryFrom (d : Document) (pairs : List (Part × Part)) :
    (entryFrom d ⟨[], false⟩ pairs).hasOtherKeys = false ↔
      ∀ p ∈ pairs, (p.1.name? d).isSome = true := by
  simp [entryFrom, Option.isSome_iff_ne_none]

theorem hasSecret_iff {s : Sources} {settings : Settings} :
    s.HasSecret settings ↔
      (((merged s settings).lookup Field.secret.name).getD .null).isGiven = true := by
  have hcounts := counts_merged s settings .secret
  constructor
  · rintro ⟨found, hfound, hgiven⟩
    rwa [hcounts.unique hfound]
  · intro hgiven
    cases hlookup : (merged s settings).lookup Field.secret.name with
    | none =>
        rw [hlookup] at hgiven
        cases hgiven
    | some found =>
        rw [hlookup] at hcounts hgiven
        exact ⟨found, hcounts, hgiven⟩

theorem lookup_merged_entryFrom (s : Sources) (d : Document) (pairs : List (Part × Part))
    (field : Field) :
    (merged s (entryFrom d ⟨[], false⟩ pairs).settings).lookup field.name =
      (merged s (lastFirst d pairs)).lookup field.name := by
  simp only [lookup_merged, Sources.supplied, entryFrom, lastFirst, Value.lookup_foldl_putText,
    List.lookup_nil, Option.or_none]

theorem otherKeys_harmless_iff {s : Sources} {d : Document} {pairs : List (Part × Part)} :
    ((entryFrom d ⟨[], false⟩ pairs).hasOtherKeys = true →
        (((merged s (entryFrom d ⟨[], false⟩ pairs).settings).lookup Field.secret.name).getD
          .null).isGiven = false) ↔
      (∀ p ∈ pairs, (p.1.name? d).isSome = true) ∨ ¬ s.HasSecret (lastFirst d pairs) := by
  rw [lookup_merged_entryFrom, ← hasOtherKeys_entryFrom, hasSecret_iff, Bool.not_eq_true]
  cases (entryFrom d ⟨[], false⟩ pairs).hasOtherKeys <;> simp

theorem settles_endpointEntry_iff {s : Sources} {d : Document} {path : String} :
    s.Settles (endpointEntry path d s.endpoint) ↔ s.Fits d := by
  constructor
  · intro h
    by_cases htop : ∃ fields, Top d fields
    · obtain ⟨fields, htop⟩ := htop
      obtain ⟨endpoints, name, hasks⟩ := exists_asks htop s.endpoint
      rw [hasks.endpointEntry] at h
      cases hgiven : (d.contents name).isGiven with
      | false => exact .nameless hasks hgiven
      | true =>
          generalize hresult : entryNamed path d endpoints name = result at h
          cases h with
          | entry hkeys =>
              obtain ⟨found, pairs, hsearch, hholds, hgives, hpairs, rfl⟩ :=
                (entryNamed_ok hgiven).1 hresult
              exact .defined hasks hgiven hsearch hholds hgives hpairs
                (otherKeys_harmless_iff.1 hkeys)
          | failed =>
              obtain ⟨hsearch, stated, hstated, -⟩ := (entryNamed_failed hgiven).1 hresult
              exact .undefined hasks hgiven hsearch ⟨stated, hstated⟩
    · have hfault : ∃ f, endpointEntry path d s.endpoint = .error (.fault f) :=
        endpointEntry_fault htop
      obtain ⟨f, hf⟩ := hfault
      rw [hf] at h
      cases h
  · intro h
    cases h with
    | nameless hasks hgiven =>
        rw [hasks.endpointEntry, entryNamed_nameless hgiven]
        exact .entry fun h => by cases h
    | undefined hasks hgiven hsearch hstated =>
        obtain ⟨stated, hstated⟩ := hstated
        rw [hasks.endpointEntry, (entryNamed_failed hgiven).2 ⟨hsearch, stated, hstated, rfl⟩]
        exact .failed rfl
    | defined hasks hgiven hsearch hholds hgives hpairs hkeys =>
        rw [hasks.endpointEntry,
          (entryNamed_ok hgiven).2 ⟨_, _, hsearch, hholds, hgives, hpairs, rfl⟩]
        exact .entry (otherKeys_harmless_iff.2 hkeys)

theorem settles_configured_iff {s : Sources} : s.Settles (configured s) ↔ s.Usable := by
  cases hconfiguration : s.configuration with
  | none =>
      have husable : s.Usable := by
        intro text htext
        rw [hconfiguration] at htext
        cases htext
      refine ⟨fun _ => husable, fun _ => ?_⟩
      simp only [configured, hconfiguration]
      split
      · exact .entry fun h => by cases h
      · exact .failed rfl
  | some text =>
      have husable : s.Usable ↔
          Yaml.read text = .error .malformed ∨ ∃ d, Yaml.read text = .ok d ∧ s.Fits d := by
        simp [Sources.Usable, hconfiguration]
      rw [husable]
      simp only [configured, hconfiguration]
      split
      · next d hread => simp [hread, settles_endpointEntry_iff]
      · next hread => exact ⟨fun _ => .inl hread, fun _ => .failed rfl⟩
      · next f hread =>
        constructor
        · intro h; cases h
        · rintro (h | ⟨d, h, -⟩)
          · rw [hread] at h
            cases h
          · rw [hread] at h
            cases h

theorem resolve_declared_iff (s : Sources) : Declared (resolve s) ↔ s.Usable := by
  rw [declared_resolve_iff, settles_configured_iff]

def itemsSources : Sources where
  home := "/home"
  configuration := some "- a\n".toList
  variableFile := none
  environment := []
  overrides := [("secret", .str "s")]
  endpoint := ""

def escaped? : Except Unresolved Options → Option Fault
  | .error (.refused (.fault f)) => some f
  | _ => none

theorem eq_of_escaped? {outcome : Except Unresolved Options} {f : Fault}
    (h : escaped? outcome = some f) : outcome = .error (.refused (.fault f)) := by
  unfold escaped? at h
  split at h
  · cases h
    rfl
  · cases h

theorem resolve_itemsSources :
    resolve itemsSources = .error (.refused (.fault (.noAttribute "list" "get"))) ∧
      ¬ Declared (resolve itemsSources) := by
  have hresolve : resolve itemsSources = .error (.refused (.fault (.noAttribute "list" "get"))) :=
    eq_of_escaped? (by decide +kernel)
  refine ⟨hresolve, ?_⟩
  rw [hresolve]
  intro h
  cases h with
  | error hfailure => cases hfailure

end QueryShell.Config
