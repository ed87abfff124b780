import QueryShell.Proofs.Config.Validation
import QueryShell.Proofs.Value.TextKeys

namespace QueryShell.Config

inductive Layer where
  | endpoint
  | variableFile
  | environment
  | override
  deriving DecidableEq, Repr

namespace Layer

def rank : Layer → Nat
  | endpoint => 0
  | variableFile => 1
  | environment => 2
  | override => 3

end Layer

/-- The setting that a variable gives. An empty one gives none. -/
def ofVariable? (text : Option String) : Option Setting :=
  match text with
  | some text => if text = "" then none else some (.text text)
  | none => none

def Sources.fileVariables (s : Sources) : Variables :=
  (s.variableFile.map fun text => variablesOf s.environment (Yaml.unifyBreaks text)).getD []

/-- What a source holds for a field, given the settings of the endpoint. Of several overrides of
one name the last that is not null is taken. -/
def Sources.supplied (s : Sources) (settings : Settings) (field : Field) : Layer → Option Setting
  | .endpoint => settings.lookup field.name
  | .variableFile => ofVariable? (s.fileVariables.lookup field.variableName).join
  | .environment => ofVariable? (s.environment.lookup field.variableName)
  | .override =>
      ((s.overrides.filter fun p => !p.2.isNull).reverse.lookup field.name).map .ofValue

inductive Counts (s : Sources) (settings : Settings) (field : Field) : Option Setting → Prop where
  | supplied {layer : Layer} {found : Setting} :
      s.supplied settings field layer = some found →
      (∀ higher : Layer, layer.rank < higher.rank → s.supplied settings field higher = none) →
      Counts s settings field (some found)
  | missing : (∀ layer, s.supplied settings field layer = none) → Counts s settings field none

def AgreeWhereSeen (s t : Sources) (settings others : Settings) : Prop :=
  ∀ field layer,
    (∀ higher : Layer, layer.rank < higher.rank → s.supplied settings field higher = none) →
    s.supplied settings field layer = t.supplied others field layer

theorem Field.name_inj {f g : Field} (h : f.name = g.name) : f = g := by
  cases f <;> cases g <;> first | rfl | exact absurd h (by decide)

theorem Field.mem_all (f : Field) : f ∈ all := by
  cases f <;> decide

theorem lookup_filterMap_fields (value : Field → Option Setting) (field : Field)
    (fields : List Field) :
    (fields.filterMap fun g => (value g).map fun v => (g.name, v)).lookup field.name =
      if field ∈ fields then value field else none := by
  induction fields with
  | nil => rfl
  | cons g fields ih =>
      by_cases hg : field = g
      · subst hg
        cases hvalue : value field with
        | none =>
            rw [List.filterMap_cons_none (by rw [hvalue]; rfl), ih, hvalue, ite_self, ite_self]
        | some v =>
            rw [List.filterMap_cons_some (by rw [hvalue]; rfl), List.lookup_cons,
              beq_self_eq_true, if_pos (List.mem_cons_self ..)]
      · have hname : field.name ≠ g.name := fun h => hg (Field.name_inj h)
        have hmem : field ∈ g :: fields ↔ field ∈ fields := by simp [hg]
        simp only [hmem, ← ih]
        cases hvalue : value g with
        | none => rw [List.filterMap_cons_none (by rw [hvalue]; rfl)]
        | some v =>
            rw [List.filterMap_cons_some (by rw [hvalue]; rfl), List.lookup_cons,
              beq_false_of_ne hname]

theorem settingsOfVariables_eq (known : Variables) :
    settingsOfVariables known = Field.all.filterMap fun g =>
      (ofVariable? (known.lookup g.variableName).join).map fun v => (g.name, v) := by
  unfold settingsOfVariables
  congr 1
  funext g
  cases (known.lookup g.variableName).join with
  | none => rfl
  | some text =>
      by_cases hempty : text = ""
      · simp [ofVariable?, hempty]
      · simp [ofVariable?, hempty]

theorem lookup_settingsOfVariables (known : Variables) (field : Field) :
    (settingsOfVariables known).reverse.lookup field.name =
      ofVariable? (known.lookup field.variableName).join := by
  rw [settingsOfVariables_eq, ← List.filterMap_reverse, lookup_filterMap_fields,
    if_pos (List.mem_reverse.2 field.mem_all)]

theorem lookup_environmentVariables (environment : List (String × String)) (name : String) :
    ((environmentVariables environment).lookup name).join = environment.lookup name := by
  rw [environmentVariables, Value.lookup_map]
  cases environment.lookup name <;> rfl

theorem settingsOfOverrides_eq (overrides : List (String × Value)) :
    settingsOfOverrides overrides =
      (overrides.filter fun p => !p.2.isNull).map fun p => (p.1, .ofValue p.2) := by
  induction overrides with
  | nil => rfl
  | cons p overrides ih =>
      simp only [settingsOfOverrides] at ih ⊢
      cases hnull : p.2.isNull with
      | true => simp [hnull, ih]
      | false => simp [hnull, ih]

theorem lookup_settingsOfOverrides (overrides : List (String × Value)) (name : String) :
    (settingsOfOverrides overrides).reverse.lookup name =
      ((overrides.filter fun p => !p.2.isNull).reverse.lookup name).map .ofValue := by
  rw [settingsOfOverrides_eq, ← List.map_reverse, Value.lookup_map]

section

variable (s : Sources) (settings : Settings) (field : Field)

theorem lookup_merged :
    (merged s settings).lookup field.name =
      (s.supplied settings field .override).or
        ((s.supplied settings field .environment).or
          ((s.supplied settings field .variableFile).or
            (s.supplied settings field .endpoint))) := by
  simp only [merged, Value.lookup_foldl_putText, List.flatten_cons, List.flatten_nil,
    List.append_nil, List.reverse_append, List.lookup_append, lookup_settingsOfVariables,
    lookup_environmentVariables, lookup_settingsOfOverrides, Option.or_assoc]
  rfl

theorem counts_merged : Counts s settings field ((merged s settings).lookup field.name) := by
  rw [lookup_merged]
  cases hover : s.supplied settings field .override with
  | some found =>
      refine .supplied hover fun higher h => ?_
      cases higher <;> simp [Layer.rank] at h
  | none =>
      cases henv : s.supplied settings field .environment with
      | some found =>
          refine .supplied henv fun higher h => ?_
          cases higher <;> first | exact hover | simp [Layer.rank] at h
      | none =>
          cases hfile : s.supplied settings field .variableFile with
          | some found =>
              refine .supplied hfile fun higher h => ?_
              cases higher <;> first | exact hover | exact henv | simp [Layer.rank] at h
          | none =>
              cases hentry : s.supplied settings field .endpoint with
              | some found =>
                  refine .supplied hentry fun higher h => ?_
                  cases higher <;>
                    first | exact hover | exact henv | exact hfile | simp [Layer.rank] at h
              | none =>
                  refine .missing fun layer => ?_
                  cases layer
                  · exact hentry
                  · exact hfile
                  · exact henv
                  · exact hover

end

section

variable {s t : Sources} {settings others : Settings} {field : Field}

theorem Layer.eq_of_rank {a b : Layer} (h : ¬ a.rank < b.rank) (h' : ¬ b.rank < a.rank) :
    a = b := by
  cases a <;> cases b <;> first | rfl | exact absurd (by decide) h | exact absurd (by decide) h'

theorem Counts.unique {v w : Option Setting} (hv : Counts s settings field v)
    (hw : Counts s settings field w) : v = w := by
  cases hv with
  | @supplied layer found hfound hnone =>
      cases hw with
      | @supplied layer' found' hfound' hnone' =>
          have hlow : ¬ layer.rank < layer'.rank := by
            intro hlt
            rw [hnone layer' hlt] at hfound'
            cases hfound'
          have hhigh : ¬ layer'.rank < layer.rank := by
            intro hlt
            rw [hnone' layer hlt] at hfound
            cases hfound
          obtain rfl := Layer.eq_of_rank hlow hhigh
          rw [← hfound, ← hfound']
      | missing hnone' =>
          rw [hnone' layer] at hfound
          cases hfound
  | missing hnone =>
      cases hw with
      | @supplied layer found hfound _ =>
          rw [hnone layer] at hfound
          cases hfound
      | missing _ => rfl

theorem Counts.of_agree {v : Option Setting} (hv : Counts s settings field v)
    (h : AgreeWhereSeen s t settings others) : Counts t others field v := by
  cases hv with
  | @supplied layer found hfound hnone =>
      have hsame : t.supplied others field layer = some found := by
        rw [← h field layer hnone, hfound]
      refine .supplied hsame fun higher hlt => ?_
      have habove : ∀ above : Layer, higher.rank < above.rank →
          s.supplied settings field above = none :=
        fun above hlt' => hnone above (Nat.lt_trans hlt hlt')
      rw [← h field higher habove, hnone higher hlt]
  | missing hnone =>
      refine .missing fun layer => ?_
      rw [← h field layer fun higher _ => hnone higher, hnone layer]

theorem resolve_judged {entry : Entry} (hentry : configured s = .ok entry)
    (hkeys : entry.hasOtherKeys = false) :
    resolve s = judgementOf fun field => (merged s entry.settings).lookup field.name := by
  have hresolve : resolve s =
      optionsOfSettings (merged s entry.settings) entry.hasOtherKeys := by
    rw [resolve, hentry]
    rfl
  rw [hresolve, optionsOfSettings, hkeys, judgementOf]
  cases (((merged s entry.settings).lookup Field.secret.name).getD .null).isGiven with
  | true => rfl
  | false => rfl

theorem resolve_highest {entry : Entry} (hentry : configured s = .ok entry)
    (hkeys : entry.hasOtherKeys = false) :
    (∃ setting : Field → Option Setting,
      (∀ field v, Counts s entry.settings field v ↔ v = setting field) ∧
        ∀ outcome, resolve s = outcome ↔ Judged setting outcome) ∧
    ∀ (t : Sources) (other : Entry), configured t = .ok other → other.hasOtherKeys = false →
      AgreeWhereSeen s t entry.settings other.settings → resolve t = resolve s := by
  have hcounts := counts_merged s entry.settings
  refine ⟨⟨_, fun field v => ⟨fun hv => hv.unique (hcounts field), ?_⟩,
    fun outcome => ?_⟩, fun t other hother hkeys' hagree => ?_⟩
  · rintro rfl
    exact hcounts field
  · rw [resolve_judged hentry hkeys, judged_iff]
  · rw [resolve_judged hentry hkeys, resolve_judged hother hkeys']
    congr 1
    funext field
    exact (counts_merged t other.settings field).unique ((hcounts field).of_agree hagree)

end

def overriddenSources (configuration : Option (List Char)) : Sources :=
  { home := "/home"
    configuration := configuration
    variableFile := none
    environment := [("FAUNA_SECRET", "s"), ("FAUNA_PORT", "")]
    overrides := [("timeout", .null), ("port", .int 8443)]
    endpoint := "" }

def badPort : List Char :=
  "default: a\nendpoints: \x7ba: \x7bport: x, other: 1\x7d\x7d".toList

def badPortEntry : Entry :=
  ⟨[("port", .text "x"), ("other", .int 1)], false⟩

def isBadPortEntry : Except Refusal Entry → Bool
  | .ok ⟨[("port", .text "x"), ("other", .int 1)], false⟩ => true
  | _ => false

theorem eq_of_isBadPortEntry {entry : Except Refusal Entry} (h : isBadPortEntry entry = true) :
    entry = .ok badPortEntry := by
  unfold isBadPortEntry at h
  split at h
  · rfl
  · cases h

theorem agree_badPort : AgreeWhereSeen (overriddenSources (some badPort)) (overriddenSources none)
    badPortEntry.settings [] := by
  intro field layer habove
  cases layer with
  | endpoint =>
      cases field with
      | port =>
          have hnone := habove .override (by decide)
          cases hnone
      | secret => rfl
      | domain => rfl
      | scheme => rfl
      | timeout => rfl
  | variableFile => rfl
  | environment => rfl
  | override => rfl

theorem resolve_highest_badPort :
    configured (overriddenSources (some badPort)) = .ok badPortEntry ∧
      badPortEntry.hasOtherKeys = false ∧
      configured (overriddenSources none) = .ok ⟨[], false⟩ ∧
      (∃ setting : Field → Option Setting,
        (∀ field v, Counts (overriddenSources (some badPort)) badPortEntry.settings field v ↔
          v = setting field) ∧
        ∀ outcome, resolve (overriddenSources (some badPort)) = outcome ↔
          Judged setting outcome) ∧
      resolve (overriddenSources none) = resolve (overriddenSources (some badPort)) := by
  have hentry : configured (overriddenSources (some badPort)) = .ok badPortEntry :=
    eq_of_isBadPortEntry (by decide +kernel)
  have hother : configured (overriddenSources none) = .ok ⟨[], false⟩ := rfl
  obtain ⟨hjudged, hsame⟩ := resolve_highest hentry rfl
  exact ⟨hentry, rfl, hother, hjudged, hsame _ _ hother rfl agree_badPort⟩

end QueryShell.Config
