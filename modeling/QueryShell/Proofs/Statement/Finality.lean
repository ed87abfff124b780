import QueryShell.Proofs.Statement.OpenString

namespace QueryShell.Statement

theorem Blocked.append_line {c : Char} {rest : List Char} (h : Blocked (c :: rest))
    (hc : isQuote c = false) (more : List Char) : Blocked (c :: (rest ++ '\n' :: more)) := by
  refine ⟨by simp, ?_, ?_⟩
  · have hzero := h.not_ignored
    have hspace : isSpace c = false := by
      rw [Bool.eq_false_iff]
      intro hspace
      rw [ignored_space hspace] at hzero
      exact Nat.succ_ne_zero _ hzero
    cases rest with
    | nil => simp [ignored, hspace]
    | cons d rest => simpa [ignored, hspace] using hzero
  · rw [token?_stop rfl more hc]
    exact h.no_token

section

variable [CharacterNames]

inductive Doomed (text : List Char) : Prop where
  | tokens {ts : List Token} {rest : List Char} : Splits text ts rest →
      ¬ (Viable ts ∧ ∀ t ∈ ts, t.Reads) → Doomed text
  | char {ts : List Token} {c : Char} {rest : List Char} : Splits text ts (c :: rest) →
      Blocked (c :: rest) → isQuote c = false → Doomed text
  | string {ts : List Token} {q : Char} {rest : List Char} : LeftOpen text ts q rest →
      closeString q (rest ++ [q]) ≠ none → ¬ (Viable (ts ++ [closedString q rest]) ∧
        ∀ t ∈ ts ++ [closedString q rest], t.Reads) → Doomed text

theorem LeftOpen.doomed_of_malformed {text rest : List Char} {ts : List Token} {q : Char}
    {e : ShellError} (h : LeftOpen text ts q rest) (htrial : trial text q = .malformed e) :
    Doomed text := by
  by_cases hopen : closeString q (rest ++ [q]) = none
  · rw [h.trial_of_dangling hopen] at htrial
    cases htrial
  · refine .string h hopen fun hboth => ?_
    obtain ⟨hviable, hreads⟩ := hboth
    rcases h.trial_cases hopen with ⟨hno, -⟩ | ⟨-, heq⟩ | ⟨forms, fault, hprogram, hfault, -⟩
    · exact hno hviable
    · rw [heq] at htrial
      cases htrial
    · obtain ⟨nodes, hnodes⟩ := (hprogram.reads_iff (h.wellFormed hopen)).1 hreads
      rw [hfault] at hnodes
      cases hnodes

theorem doomed_of_malformed {text : List Char} {e : ShellError} (hblank : isBlank text = false)
    (h : read text = .malformed e) : Doomed text := by
  have hlook := outline_outlook text
  rw [read, hblank] at h
  simp only [Bool.false_eq_true, if_false] at h
  generalize outline text = out at h hlook
  cases hlook with
  | @complete ts forms hsplits hprogram =>
      refine .tokens hsplits fun hboth => ?_
      obtain ⟨nodes, hnodes⟩ := (hprogram.reads_iff hsplits.wellFormed).1 hboth.2
      have hparsed := readForms_eq_parsed.2 hnodes
      rw [classify, hparsed] at h
      cases h
  | unfinished => cases h
  | unexpectedToken hsplits hno => exact .tokens hsplits fun hboth => hno hboth.1
  | @unexpectedChar ts offset c rest hsplits hviable hblocked =>
      cases hc : isQuote c with
      | false => exact .char hsplits hblocked hc
      | true =>
          simp only [classify, hc, if_true] at h
          exact LeftOpen.doomed_of_malformed ⟨hsplits, hviable, hc, hblocked⟩ h

theorem Doomed.not_parsed {text : List Char} (h : Doomed text) (more : List Char)
    (nodes : List Node) : read (text ++ '\n' :: more) ≠ .parsed nodes := by
  intro hparsed
  cases h with
  | tokens hsplits hbad =>
      obtain ⟨vs, -, hviable, hreads⟩ := viable_reads_of_read hparsed (hsplits.append_line more)
      exact hbad ⟨hviable.left, fun t ht => hreads t (List.mem_append_left vs ht)⟩
  | char hsplits hblocked hc =>
      obtain ⟨vs, hrest, -, -⟩ := viable_reads_of_read hparsed (hsplits.append_line more)
      exact (hblocked.append_line hc more).not_splits hrest
  | @string ts q rest hopen hclosed hbad =>
      have hsplits := hopen.append ('\n' :: more)
      obtain ⟨us, hrest, hviable, hreads⟩ := viable_reads_of_read hparsed hsplits
      obtain ⟨inside, vs, rfl⟩ := hopen.goes_on hrest
      refine hbad ⟨?_, ?_⟩
      · rw [← List.singleton_append, ← List.append_assoc] at hviable
        exact hviable.left.string _
      · intro t ht
        rcases List.mem_append.1 ht with ht | ht
        · exact hreads t (List.mem_append_left _ ht)
        · rw [List.mem_singleton.1 ht]
          have hstring := hreads _ (List.mem_append_right ts (List.mem_cons_self ..))
          have hwf := hopen.wellFormed hclosed (closedString q rest) (by simp)
          rw [← List.append_nil rest] at hwf ⊢
          exact reads_cut hstring hwf (.inl rfl)

theorem malformed_is_final {text : List Char} {e : ShellError} (hblank : isBlank text = false)
    (h : read text = .malformed e) (more : List Char) (nodes : List Node) :
    read (text ++ '\n' :: more) ≠ .parsed nodes :=
  (doomed_of_malformed hblank h).not_parsed more nodes

end

def misplacedString : List Char :=
  ['A', 'd', 'd', '(', '1', ' ', '"', 'x']

theorem malformed_is_final_misplacedString :
    isBlank misplacedString = false ∧ (∃ e, read misplacedString = .malformed e) ∧
      ∀ nodes, read (misplacedString ++ '\n' :: ['"', ')']) ≠ .parsed nodes := by
  have hblank : isBlank misplacedString = false := by decide
  have hread : ∃ e, read misplacedString = .malformed e := by decide +kernel
  obtain ⟨e, he⟩ := hread
  exact ⟨hblank, ⟨e, he⟩, malformed_is_final hblank he ['"', ')']⟩

end QueryShell.Statement
