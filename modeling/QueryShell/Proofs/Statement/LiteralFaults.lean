import QueryShell.Proofs.Statement.OpenString

namespace QueryShell.Statement

def Key.literals : Key → List Token
  | .name _ => []
  | .string text => [.string text]

mutual

def Form.literals : Form → List Token
  | .name _ => []
  | .string text => [.string text]
  | .number text => [.number text]
  | .call _ args => literalsOf args
  | .array items => literalsOf items
  | .object pairs => literalsOfPairs pairs
termination_by structural f => f

def literalsOf : List Form → List Token
  | [] => []
  | f :: fs => f.literals ++ literalsOf fs
termination_by structural fs => fs

def literalsOfPairs : List (Key × Form) → List Token
  | [] => []
  | (key, form) :: pairs => form.literals ++ (key.literals ++ literalsOfPairs pairs)
termination_by structural pairs => pairs

end

def TooLong (token : List Char) : Prop :=
  ¬ HasPointOrExponent token ∧ 4300 < token.countP Text.isDigit

section

variable [CharacterNames]

def Token.fault? : Token → Option LiteralFault
  | .string text => error? (stringValue text)
  | .number text => error? (numberValue text)
  | .name _ | .mark _ => none

theorem Token.fault?_eq_none {t : Token} (h : t.WellFormed) : t.fault? = none ↔ t.Reads := by
  cases t with
  | string text => exact error?_eq_none.trans (exists_congr fun s => stringValue_eq_ok_iff h)
  | number text => exact error?_eq_none.trans (exists_congr fun v => numberValue_eq_ok_iff h)
  | name text => exact ⟨fun _ => trivial, fun _ => rfl⟩
  | mark mark => exact ⟨fun _ => trivial, fun _ => rfl⟩

theorem error?_keyText (key : Key) :
    error? (keyText key) = key.literals.findSome? Token.fault? := by
  cases key with
  | name text => rfl
  | string text => simp [keyText, Key.literals, Token.fault?]

mutual

theorem Form.error?_toNode (form : Form) :
    error? form.toNode = form.literals.findSome? Token.fault? := by
  cases form with
  | name text => rfl
  | string text =>
      rw [Form.toNode, error?_map]
      simp [Form.literals, Token.fault?]
  | number text =>
      rw [Form.toNode, error?_map]
      simp [Form.literals, Token.fault?]
  | call name args =>
      rw [Form.toNode, error?_map]
      exact error?_formsToNodes args
  | array items =>
      rw [Form.toNode, error?_map]
      exact error?_formsToNodes items
  | object pairs =>
      rw [Form.toNode, error?_map]
      exact error?_pairsToNodes pairs

theorem error?_formsToNodes (forms : List Form) :
    error? (formsToNodes forms) = (literalsOf forms).findSome? Token.fault? := by
  cases forms with
  | nil => rfl
  | cons form forms =>
      rw [formsToNodes, error?_bind (fun node => error?_map _ _), form.error?_toNode,
        error?_formsToNodes forms, literalsOf, List.findSome?_append]

theorem error?_pairsToNodes (pairs : List (Key × Form)) :
    error? (pairsToNodes pairs) = (literalsOfPairs pairs).findSome? Token.fault? := by
  cases pairs with
  | nil => rfl
  | cons pair pairs =>
      obtain ⟨key, form⟩ := pair
      rw [pairsToNodes, error?_bind (fun node => error?_bind fun name => error?_map _ _),
        form.error?_toNode, error?_keyText, error?_pairsToNodes pairs, literalsOfPairs,
        List.findSome?_append, List.findSome?_append]

end

theorem formsToNodes_eq_error {forms : List Form} (hwf : ∀ t ∈ literalsOf forms, t.WellFormed)
    {fault : LiteralFault} :
    formsToNodes forms = .error fault ↔
      ∃ before t after, literalsOf forms = before ++ t :: after ∧ (∀ u ∈ before, u.Reads) ∧
        t.fault? = some fault := by
  rw [← error?_eq_some, error?_formsToNodes, List.findSome?_eq_some_iff]
  have hreads : ∀ before t after, literalsOf forms = before ++ t :: after →
      ((∀ u ∈ before, u.fault? = none) ↔ ∀ u ∈ before, u.Reads) := by
    intro before t after hforms
    exact forall₂_congr fun u hu => Token.fault?_eq_none (hwf u (by simp [hforms, hu]))
  constructor
  · rintro ⟨before, t, after, hforms, hfault, hbefore⟩
    exact ⟨before, t, after, hforms, (hreads before t after hforms).1 hbefore, hfault⟩
  · rintro ⟨before, t, after, hforms, hbefore, hfault⟩
    exact ⟨before, t, after, hforms, hfault, (hreads before t after hforms).2 hbefore⟩

end

theorem DerivesKey.mem_of_literals {k t : Token} {key : Key} (h : DerivesKey k key)
    (ht : t ∈ key.literals) : t = k := by
  cases h with
  | name => cases ht
  | string => exact List.mem_singleton.1 ht

mutual

theorem Derives.mem_of_literals {ts : List Token} {form : Form} (h : Derives ts form)
    {t : Token} (ht : t ∈ form.literals) : t ∈ ts := by
  cases h with
  | name => cases ht
  | string => exact ht
  | number => exact ht
  | call _ hitems => simp [hitems.mem_of_literals ht]
  | array hitems => simp [hitems.mem_of_literals ht]
  | object hpairs => simp [hpairs.mem_of_literals ht]

theorem DerivesItems.mem_of_literals {ts : List Token} {forms : List Form}
    (h : DerivesItems ts forms) {t : Token} (ht : t ∈ literalsOf forms) : t ∈ ts := by
  cases h with
  | none => cases ht
  | last hform =>
      simp only [literalsOf, List.append_nil] at ht
      exact hform.mem_of_literals ht
  | more hform hitems =>
      rcases List.mem_append.1 ht with ht | ht
      · simp [hform.mem_of_literals ht]
      · simp [hitems.mem_of_literals ht]

theorem DerivesPairs.mem_of_literals {ts : List Token} {pairs : List (Key × Form)}
    (h : DerivesPairs ts pairs) {t : Token} (ht : t ∈ literalsOfPairs pairs) : t ∈ ts := by
  cases h with
  | none => cases ht
  | last hkey hform =>
      simp only [literalsOfPairs, List.append_nil] at ht
      rcases List.mem_append.1 ht with ht | ht
      · simp [hform.mem_of_literals ht]
      · simp [hkey.mem_of_literals ht]
  | more hkey hform hpairs =>
      simp only [literalsOfPairs, List.mem_append] at ht
      rcases ht with ht | ht | ht
      · simp [hform.mem_of_literals ht]
      · simp [hkey.mem_of_literals ht]
      · simp [hpairs.mem_of_literals ht]

end

theorem Program.mem_of_literals {ts : List Token} {forms : List Form} (h : Program ts forms)
    {t : Token} (ht : t ∈ literalsOf forms) : t ∈ ts := by
  induction h with
  | last hform => exact (DerivesItems.last hform).mem_of_literals ht
  | closed hform => simp [(DerivesItems.last hform).mem_of_literals ht]
  | more hform _ ih =>
      rcases List.mem_append.1 ht with ht | ht
      · simp [hform.mem_of_literals ht]
      · simp [ih ht]

theorem Digits.countP_eq {ds : List Char} (h : Digits ds) :
    ds.countP Text.isDigit = ds.length :=
  List.countP_eq_length.2 h.2

theorem Digits.countP_withSign {ds : List Char} (h : Digits ds) (negative : Bool) :
    (Decimal.withSign negative ds).countP Text.isDigit = ds.length := by
  have hminus : Text.isDigit '-' = false := by decide
  cases negative with
  | false => exact h.countP_eq
  | true =>
      rw [Decimal.withSign, if_pos rfl, List.countP_cons_of_neg (by simp [hminus]), h.countP_eq]

theorem Digits.tooLong_iff {ds : List Char} (h : Digits ds) (negative : Bool) :
    TooLong (Decimal.withSign negative ds) ↔ 4300 < ds.length := by
  rw [TooLong, hasPointOrExponent_withSign, h.countP_withSign]
  exact and_iff_right h.no_pointOrExponent

theorem NumberText.numberValue_eq_error {token : List Char} (h : NumberText token)
    {fault : LiteralFault} :
    numberValue token = .error fault ↔
      TooLong token ∧ fault = .integer (token.countP Text.isDigit) := by
  cases h.parts with
  | integer negative hds =>
      rw [numberValue_integer negative hds, hds.tooLong_iff, hds.countP_withSign]
      split
      · next hwithin => simp [hwithin]
      · next hbeyond => simp [Nat.not_le.1 hbeyond, eq_comm]
  | float negative hw hf he hmark =>
      rw [numberValue_float negative hw hf he hmark]
      refine iff_of_false nofun fun hlong => hlong.1.1 ?_
      exact (hasPointOrExponent_withSign negative).2
        (hasPointOrExponent_of_parts _ hf he.exponent hmark)

section

variable [CharacterNames]

theorem fault?_eq_integer {t : Token} (h : t.WellFormed) {digits : Nat} :
    t.fault? = some (.integer digits) ↔
      ∃ text, t = .number text ∧ TooLong text ∧ digits = text.countP Text.isDigit := by
  cases t with
  | number text =>
      have htext : NumberText text := h
      rw [Token.fault?, error?_eq_some, htext.numberValue_eq_error]
      simp
  | string text =>
      simp only [Token.fault?, stringValue]
      cases unquote text <;> simp [error?]
  | name text => simp [Token.fault?]
  | mark mark => simp [Token.fault?]

end

inductive ClosedUp (text : List Char) : List Token → Prop where
  | whole {ts : List Token} : Splits text ts [] → ClosedUp text ts
  | string {ts : List Token} {q : Char} {rest : List Char} : LeftOpen text ts q rest →
      closeString q (rest ++ [q]) ≠ none → ClosedUp text (ts ++ [closedString q rest])

theorem ClosedUp.wellFormed {text : List Char} {ts : List Token} (h : ClosedUp text ts) :
    ∀ t ∈ ts, t.WellFormed := by
  cases h with
  | whole hsplits => exact hsplits.wellFormed
  | string hopen hclosed => exact (hopen.closed hclosed).wellFormed

theorem Splits.not_blank_of_quote {text rest : List Char} {ts : List Token} {q : Char}
    (h : Splits text ts (q :: rest)) (hq : isQuote q = true) : isBlank text = false := by
  rw [Bool.eq_false_iff]
  generalize hend : q :: rest = last at h
  induction h with
  | done =>
      have hstart : Text.isBlank q = false ∧ q ≠ '/' := by
        rcases quote_cases hq with rfl | rfl <;> decide
      rw [← hend, isBlank_cons_of_not_blank hstart.1 hstart.2]
      exact Bool.false_ne_true
  | space hc _ ih =>
      rw [isBlank_cons_of_blank (blank_of_space hc)]
      exact ih hend
  | comment hb ht _ ih =>
      rw [isBlank_comment hb ht]
      exact ih hend
  | token hlex hrest =>
      intro hblank
      cases (Splits.token hlex hrest).eq_nil_of_blank hblank

theorem Digits.splits {ds : List Char} (h : Digits ds) : Splits ds [.number ds] [] := by
  have hunsigned := Unsigned.mk h .absent .absent
  rw [List.append_nil, List.append_nil] at hunsigned
  have hlex : Lexeme ds (.number ds) [] :=
    ⟨.plain hunsigned, (List.append_nil ds).symm, fun _ _ hpre => hpre.length_le⟩
  exact .token hlex .done

section

variable [CharacterNames]

theorem ClosedUp.read_eq {text : List Char} {ts : List Token} {forms : List Form}
    (h : ClosedUp text ts) (hprogram : Program ts forms) {fault : LiteralFault}
    (hfault : formsToNodes forms = .error fault) : read text = fault.toReading := by
  have hforms : readForms forms = fault.toReading := by rw [readForms, hfault]
  cases h with
  | whole hsplits =>
      rw [read, hprogram.not_blank hsplits, outline_of_program hsplits hprogram]
      exact hforms
  | @string ts q rest hopen hclosed =>
      obtain ⟨offset, hout⟩ := hopen.outline_eq
      rw [read, hopen.splits.not_blank_of_quote hopen.quote, hout]
      simp only [Bool.false_eq_true, if_false, classify, hopen.quote, if_true, trial,
        outline_of_program (hopen.closed hclosed) hprogram, hforms]
      cases fault <;> rfl

theorem exists_closedUp_of_escaped {text : List Char} {fault : Fault}
    (h : read text = .escaped fault) :
    ∃ ts forms literal, ClosedUp text ts ∧ Program ts forms ∧
      formsToNodes forms = .error literal ∧ literal.toReading = .escaped fault := by
  have hlook := outline_outlook text
  unfold read at h
  split at h
  · cases h
  · generalize outline text = out at h hlook
    cases hlook with
    | @complete ts forms hsplits hprogram =>
        simp only [classify, readForms] at h
        cases hnodes : formsToNodes forms with
        | ok nodes =>
            rw [hnodes] at h
            cases h
        | error literal =>
            rw [hnodes] at h
            exact ⟨ts, forms, literal, .whole hsplits, hprogram, hnodes, h⟩
    | unfinished => cases h
    | unexpectedToken => cases h
    | @unexpectedChar ts offset c rest hsplits hviable hblocked =>
        cases hc : isQuote c with
        | false =>
            simp only [classify, hc, Bool.false_eq_true, if_false] at h
            cases h
        | true =>
            simp only [classify, hc, if_true] at h
            have hopen : LeftOpen text ts c rest := ⟨hsplits, hviable, hc, hblocked⟩
            by_cases hclosed : closeString c (rest ++ [c]) = none
            · rw [hopen.trial_of_dangling hclosed] at h
              cases h
            · rcases hopen.trial_cases hclosed with ⟨-, e, he⟩ | ⟨-, he⟩ |
                ⟨forms, literal, hprogram, hnodes, hread⟩
              · rw [he] at h
                cases h
              · rw [he] at h
                cases h
              · exact ⟨_, forms, literal, .string hopen hclosed, hprogram, hnodes,
                  hread.symm.trans h⟩

def MeetsLongInteger (text : List Char) : Prop :=
  ∃ ts forms before long after, ClosedUp text ts ∧ Program ts forms ∧
    literalsOf forms = before ++ .number long :: after ∧ (∀ t ∈ before, t.Reads) ∧ TooLong long

theorem escaped_iff {text : List Char} :
    (∃ fault, read text = .escaped fault) ↔ MeetsLongInteger text := by
  constructor
  · rintro ⟨fault, h⟩
    obtain ⟨ts, forms, literal, hclosed, hprogram, hnodes, hread⟩ := exists_closedUp_of_escaped h
    cases literal with
    | string => cases hread
    | integer digits =>
        have hwf := fun t ht => hclosed.wellFormed t (hprogram.mem_of_literals ht)
        obtain ⟨before, t, after, hforms, hbefore, hfault⟩ := (formsToNodes_eq_error hwf).1 hnodes
        obtain ⟨long, rfl, hlong, -⟩ := (fault?_eq_integer (hwf t (by simp [hforms]))).1 hfault
        exact ⟨ts, forms, before, long, after, hclosed, hprogram, hforms, hbefore, hlong⟩
  · rintro ⟨ts, forms, before, long, after, hclosed, hprogram, hforms, hbefore, hlong⟩
    have hwf := fun t ht => hclosed.wellFormed t (hprogram.mem_of_literals ht)
    have hfault := (fault?_eq_integer (hwf _ (by simp [hforms]))).2 ⟨long, rfl, hlong, rfl⟩
    have hnodes := (formsToNodes_eq_error hwf).2 ⟨before, _, after, hforms, hbefore, hfault⟩
    exact ⟨_, hclosed.read_eq hprogram hnodes⟩

theorem read_returns_iff {text : List Char} :
    ((∃ nodes, read text = .parsed nodes) ∨ read text = .incomplete ∨
      ∃ e, read text = .malformed e) ↔ ¬ MeetsLongInteger text := by
  rw [← escaped_iff]
  cases read text with
  | parsed nodes => simp
  | incomplete => simp
  | malformed e => simp
  | escaped fault => simp

theorem Digits.read_eq {ds : List Char} (h : Digits ds) (hlong : 4300 < ds.length) :
    read ds = .escaped (.numberToken ds.length) := by
  have hsplits := h.splits
  have htoo : TooLong ds := (h.tooLong_iff false).2 hlong
  have hwf : ∀ t ∈ literalsOf [.number ds], t.WellFormed := hsplits.wellFormed
  have hfault := (fault?_eq_integer (hwf _ (List.mem_singleton.2 rfl))).2 ⟨ds, rfl, htoo, rfl⟩
  have hnodes := (formsToNodes_eq_error hwf).2 ⟨[], _, [], rfl, by simp, hfault⟩
  rw [(ClosedUp.whole hsplits).read_eq (.last .number) hnodes, h.countP_eq]
  rfl

end

def longInteger : List Char :=
  List.replicate 4301 '1'

theorem longInteger_escapes : read longInteger = .escaped (.numberToken 4301) := by
  have hlength : longInteger.length = 4301 := List.length_replicate
  have hdigits : Digits longInteger := by
    refine ⟨List.ne_nil_of_length_pos (by omega), fun c hc => ?_⟩
    rw [List.eq_of_mem_replicate hc]
    decide
  rw [hdigits.read_eq (by omega), hlength]

end QueryShell.Statement
