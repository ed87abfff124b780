import QueryShell.Proofs.Statement.Reading

namespace QueryShell.Statement

open Machine (keywords)

mutual

inductive Printed : Form → List Char → Prop where
  | string {text : List Char} : (Token.string text).WellFormed → Printed (.string text) text
  | call {name text : List Char} {args : List Form} : (Token.name name).WellFormed →
      name ∉ keywords → PrintedAll args text →
      Printed (.call name args) (name ++ '(' :: (text ++ [')']))

inductive PrintedAll : List Form → List Char → Prop where
  | none : PrintedAll [] []
  | last {form : Form} {text : List Char} : Printed form text → PrintedAll [form] text
  | more {form next : Form} {forms : List Form} {text rest : List Char} : Printed form text →
      PrintedAll (next :: forms) rest →
      PrintedAll (form :: next :: forms) (text ++ ',' :: ' ' :: rest)

end

theorem lexeme_mark (m : Mark) (cs : List Char) : Lexeme (m.char :: cs) (.mark m) cs :=
  lexeme_of_token?_split (token?_mark m cs) rfl

theorem lexeme_string {text : List Char} (h : (Token.string text).WellFormed) (rest : List Char) :
    Lexeme (text ++ rest) (.string text) rest := by
  refine lexeme_of_token?_split ?_ rfl
  obtain ⟨quote, cs, rfl, hquote, hrest⟩ := h
  rw [List.cons_append, token?_quote hquote,
    closeString_of_stringRest (quote_ne_backslash hquote) hrest rest, Option.map_some]

theorem lexeme_called {name : List Char} (h : (Token.name name).WellFormed) (rest : List Char) :
    Lexeme (name ++ '(' :: rest) (.name name) ('(' :: rest) := by
  refine lexeme_of_token?_split ?_ rfl
  obtain ⟨c, cs, rfl, hstart, hparts⟩ := h
  have htake : (cs ++ '(' :: rest).takeWhile isNamePart = cs := by
    rw [List.takeWhile_append_of_pos hparts, List.takeWhile_cons_of_neg (by decide),
      List.append_nil]
  rw [List.cons_append, token?_name hstart, htake]

mutual

theorem Printed.splits {form : Form} {text : List Char} (h : Printed form text) :
    ∃ ts, Derives ts form ∧ ∀ rest, Splits (text ++ rest) ts rest := by
  cases h with
  | string hwf => exact ⟨_, .string, fun rest => .token (lexeme_string hwf rest) .done⟩
  | @call name text args hwf hname hargs =>
      obtain ⟨ts, hts, hsplits⟩ := hargs.splits
      refine ⟨_, .call hname hts, fun rest => ?_⟩
      have hclose : Splits (')' :: rest) [.mark .closeCall] rest :=
        .token (lexeme_mark .closeCall rest) .done
      have hinside := (hsplits (')' :: rest)).trans hclose
      have hopen := Splits.token (lexeme_mark .openCall _) hinside
      have hall := Splits.token (lexeme_called hwf _) hopen
      simpa using hall

theorem PrintedAll.splits {forms : List Form} {text : List Char} (h : PrintedAll forms text) :
    ∃ ts, DerivesItems ts forms ∧ ∀ rest, Splits (text ++ rest) ts rest := by
  cases h with
  | none => exact ⟨[], .none, fun rest => .done⟩
  | last hform =>
      obtain ⟨ts, hts, hsplits⟩ := hform.splits
      exact ⟨ts, .last hts, hsplits⟩
  | @more _ _ _ text more hform hforms =>
      obtain ⟨ts, hts, hsplits⟩ := hform.splits
      obtain ⟨us, hus, hmore⟩ := hforms.splits
      refine ⟨_, .more hts hus, fun rest => ?_⟩
      have hspace : Splits (' ' :: (more ++ rest)) us rest := .space (by decide) (hmore rest)
      have hcomma := Splits.token (lexeme_mark .comma _) hspace
      have hall := (hsplits _).trans hcomma
      simpa [Mark.char] using hall

end

mutual

theorem Printed.text_unique {form : Form} {text text' : List Char} (h : Printed form text)
    (h' : Printed form text') : text = text' := by
  cases h with
  | string => cases h' with | string => rfl
  | call _ _ hargs =>
      cases h' with
      | call _ _ hargs' => rw [hargs.text_unique hargs']

theorem PrintedAll.text_unique {forms : List Form} {text text' : List Char}
    (h : PrintedAll forms text) (h' : PrintedAll forms text') : text = text' := by
  cases h with
  | none => cases h' with | none => rfl
  | last hform => cases h' with | last hform' => exact hform.text_unique hform'
  | more hform hforms =>
      cases h' with
      | more hform' hforms' => rw [hform.text_unique hform', hforms.text_unique hforms']

end

section

variable {form form' : Form} {text : List Char}

theorem Printed.program (h : Printed form text) :
    ∃ ts, Splits text ts [] ∧ Program ts [form] := by
  obtain ⟨ts, hts, hsplits⟩ := h.splits
  have hall := hsplits []
  rw [List.append_nil] at hall
  exact ⟨ts, hall, .last hts⟩

theorem Printed.form_unique (h : Printed form text) (h' : Printed form' text) : form = form' := by
  obtain ⟨ts, hsplits, hprogram⟩ := h.program
  obtain ⟨us, hsplits', hprogram'⟩ := h'.program
  rw [hsplits'.unique hsplits] at hprogram'
  exact List.head_eq_of_cons_eq (hprogram.unique hprogram')

theorem Printed.read_eq [CharacterNames] {node : Node} (h : Printed form text)
    (hnode : Denotes form node) : read text = .parsed [node] := by
  obtain ⟨ts, hsplits, hprogram⟩ := h.program
  exact Written.read_eq ⟨ts, [form], hsplits, hprogram, .cons hnode .nil⟩

end

end QueryShell.Statement
