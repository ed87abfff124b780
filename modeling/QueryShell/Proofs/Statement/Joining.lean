import QueryShell.Proofs.Statement.Reading

namespace QueryShell.Statement

def lastToken? (text : List Char) : Option Token :=
  (scan text).tokens.getLast?.map Prod.snd

def joinedBySemicolon (first second : List Char) : List Char :=
  first ++ '\n' :: ';' :: '\n' :: second

theorem Splits.lastToken?_eq {text : List Char} {ts : List Token} (h : Splits text ts []) :
    lastToken? text = ts.getLast? := by
  obtain ⟨places, _, hplaces, -, hscan⟩ := h.scanFrom_eq 0
  rw [scanFrom_nil, List.append_nil] at hscan
  rw [lastToken?, scan, hscan, ← hplaces, List.getLast?_map]

theorem Splits.joined {first second : List Char} {ts us : List Token} (h : Splits first ts [])
    (h' : Splits second us []) :
    Splits (joinedBySemicolon first second) (ts ++ .mark .semicolon :: us) [] := by
  have hmark : Lexeme (';' :: '\n' :: second) (.mark .semicolon) ('\n' :: second) :=
    lexeme_of_token?_split (token?_mark .semicolon _) rfl
  have hsecond : Splits ('\n' :: second) us [] := .space rfl h'
  have hrest : Splits ('\n' :: ';' :: '\n' :: second) (.mark .semicolon :: us) [] :=
    .space rfl (.token hmark hsecond)
  exact (h.append_line (';' :: '\n' :: second)).trans hrest

theorem Program.joined {ts us : List Token} {forms more : List Form} (h : Program ts forms)
    (hlast : ts.getLast? ≠ some (.mark .semicolon)) (h' : Program us more) :
    Program (ts ++ .mark .semicolon :: us) (forms ++ more) := by
  induction h with
  | last hform => exact .more hform h'
  | closed hform => exact absurd (List.getLast?_concat ..) hlast
  | @more ts vs form forms hform hrest ih =>
      have hvs : vs.getLast? ≠ some (.mark .semicolon) := by
        intro heq
        apply hlast
        rw [List.getLast?_append, List.getLast?_cons, heq]
        rfl
      rw [List.append_assoc, List.cons_append]
      exact .more hform (ih hvs)

variable [CharacterNames]

theorem DenotesAll.append {forms more : List Form} {nodes later : List Node}
    (h : DenotesAll forms nodes) (h' : DenotesAll more later) :
    DenotesAll (forms ++ more) (nodes ++ later) := by
  induction forms generalizing nodes with
  | nil =>
      cases h
      exact h'
  | cons form forms ih =>
      cases h with
      | cons hform hforms => exact .cons hform (ih hforms)

theorem Written.joined {first second : List Char} {nodes later : List Node}
    (h : Written first nodes) (hlast : lastToken? first ≠ some (.mark .semicolon))
    (h' : Written second later) :
    Written (joinedBySemicolon first second) (nodes ++ later) := by
  obtain ⟨ts, forms, hsplits, hprogram, hdenotes⟩ := h
  obtain ⟨us, more, hsplits', hprogram', hdenotes'⟩ := h'
  rw [hsplits.lastToken?_eq] at hlast
  exact ⟨_, _, hsplits.joined hsplits', hprogram.joined hlast hprogram',
    hdenotes.append hdenotes'⟩

theorem read_joined {first second : List Char} {nodes later : List Node}
    (h : read first = .parsed nodes) (hlast : lastToken? first ≠ some (.mark .semicolon))
    (h' : read second = .parsed later) :
    read (joinedBySemicolon first second) = .parsed (nodes ++ later) :=
  ((written_of_read h).joined hlast (written_of_read h')).read_eq

end QueryShell.Statement
