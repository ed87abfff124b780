import QueryShell.Proofs.Statement.BlankText
import QueryShell.Proofs.Statement.Literals

namespace QueryShell.Statement

instance Reading.decidableIncomplete (r : Reading) : Decidable (r = .incomplete) :=
  match r with
  | .incomplete => isTrue rfl
  | .parsed _ => isFalse Reading.noConfusion
  | .malformed _ => isFalse Reading.noConfusion
  | .escaped _ => isFalse Reading.noConfusion

instance Reading.decidableParsed (r : Reading) : Decidable (∃ nodes, r = .parsed nodes) :=
  match r with
  | .parsed nodes => isTrue ⟨nodes, rfl⟩
  | .incomplete => isFalse fun h => h.elim fun _ => Reading.noConfusion
  | .malformed _ => isFalse fun h => h.elim fun _ => Reading.noConfusion
  | .escaped _ => isFalse fun h => h.elim fun _ => Reading.noConfusion

instance Reading.decidableMalformed (r : Reading) : Decidable (∃ e, r = .malformed e) :=
  match r with
  | .malformed e => isTrue ⟨e, rfl⟩
  | .parsed _ => isFalse fun h => h.elim fun _ => Reading.noConfusion
  | .incomplete => isFalse fun h => h.elim fun _ => Reading.noConfusion
  | .escaped _ => isFalse fun h => h.elim fun _ => Reading.noConfusion

theorem toReading_ne_parsed (fault : LiteralFault) (nodes : List Node) :
    fault.toReading ≠ .parsed nodes := by
  cases fault <;> exact Reading.noConfusion

theorem toReading_ne_incomplete (fault : LiteralFault) : fault.toReading ≠ .incomplete := by
  cases fault <;> exact Reading.noConfusion

variable [CharacterNames]

def Written (text : List Char) (nodes : List Node) : Prop :=
  ∃ tokens forms, Splits text tokens [] ∧ Program tokens forms ∧ DenotesAll forms nodes

theorem readForms_eq_parsed {forms : List Form} {nodes : List Node} :
    readForms forms = .parsed nodes ↔ formsToNodes forms = .ok nodes := by
  unfold readForms
  cases formsToNodes forms with
  | ok nodes' =>
      constructor
      · intro h; cases h; rfl
      · intro h; cases h; rfl
  | error fault =>
      constructor
      · intro h; exact absurd h (toReading_ne_parsed fault nodes)
      · intro h; cases h

theorem trial_ne_parsed (text : List Char) (quote : Char) (nodes : List Node) :
    trial text quote ≠ .parsed nodes := by
  simp only [trial]
  split
  · exact Reading.noConfusion
  · next hne => exact hne nodes

theorem written_of_read {text : List Char} {nodes : List Node}
    (h : read text = .parsed nodes) : Written text nodes := by
  have hlook := outline_outlook text
  unfold read at h
  split at h
  · cases h
  · generalize outline text = out at h hlook
    cases hlook with
    | complete hsplits hprogram =>
        have hnodes := readForms_eq_parsed.1 h
        exact ⟨_, _, hsplits, hprogram, hprogram.denotes hsplits.wellFormed hnodes⟩
    | unfinished => cases h
    | unexpectedToken => cases h
    | unexpectedChar =>
        simp only [classify] at h
        split at h
        · exact absurd h (trial_ne_parsed _ _ _)
        · cases h

theorem Written.read_eq {text : List Char} {nodes : List Node} (h : Written text nodes) :
    read text = .parsed nodes := by
  obtain ⟨tokens, forms, hsplits, hprogram, hdenotes⟩ := h
  rw [read, hprogram.not_blank hsplits, outline_of_program hsplits hprogram]
  exact readForms_eq_parsed.2 hdenotes.toNodes_eq

theorem read_eq_parsed_iff {text : List Char} {nodes : List Node} :
    read text = .parsed nodes ↔ Written text nodes :=
  ⟨written_of_read, Written.read_eq⟩

theorem read_eq_parsed_of_reads {text : List Char} {tokens : List Token} {forms : List Form}
    (hsplits : Splits text tokens []) (hprogram : Program tokens forms)
    (hreads : ∀ t ∈ tokens, t.Reads) : ∃ nodes, read text = .parsed nodes := by
  obtain ⟨nodes, hnodes⟩ := (hprogram.reads_iff hsplits.wellFormed).1 hreads
  exact ⟨nodes, Written.read_eq ⟨tokens, forms, hsplits, hprogram,
    hprogram.denotes hsplits.wellFormed hnodes⟩⟩

theorem viable_reads_of_read {text rest : List Char} {ts : List Token} {nodes : List Node}
    (h : read text = .parsed nodes) (hsplits : Splits text ts rest) :
    ∃ vs, Splits rest vs [] ∧ Viable (ts ++ vs) ∧ ∀ t ∈ ts ++ vs, t.Reads := by
  obtain ⟨tokens, forms, hall, hprogram, hdenotes⟩ := written_of_read h
  obtain ⟨vs, rfl, hrest⟩ := hall.factor hsplits
  exact ⟨vs, hrest, hprogram.viable,
    (hprogram.reads_iff hall.wellFormed).2 ⟨nodes, hdenotes.toNodes_eq⟩⟩

end QueryShell.Statement
