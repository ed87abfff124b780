import QueryShell.Proofs.Render.Outline
import QueryShell.Proofs.Value.Tagging
import QueryShell.Render.View

namespace QueryShell.Render

open Value (inspect inspectAll inspectPairs textOr refText schema? commaSeparated entryText
  isSeparator)

mutual

def spelled : Value → Except Fault Str
  | .null => .ok "null"
  | .bool b => .ok (if b then "true" else "false")
  | .list items => return "[" ++ commaSeparated (← spelledAll items) ++ "]"
  | .dict pairs => return "\x7b" ++ commaSeparated (← spelledPairs pairs) ++ "\x7d"
  | .ref id collection database =>
      refText id collection database.truthy (spelled database) (spelled collection) (spelled id)
        (schema? collection)
  | .time value => return "Time(\"" ++ (← textOr value (spelled value)) ++ "\")"
  | .date value => return "Date(\"" ++ (← textOr value (spelled value)) ++ "\")"
  | .set value => return "SetRef(" ++ (← spelled value) ++ ")"
  | .query value => return "Query(" ++ (← spelled value) ++ ")"
  | other => other.inspect
termination_by structural v => v

def spelledAll : List Value → Except Fault (List Str)
  | [] => .ok []
  | v :: vs => return (← spelled v) :: (← spelledAll vs)
termination_by structural vs => vs

def spelledPairs : List (Value × Value) → Except Fault (List Str)
  | [] => .ok []
  | (k, v) :: ps => return entryText (← inspect k) (← spelled v) :: (← spelledPairs ps)
termination_by structural ps => ps

end

/-- Null or a boolean is part of the text that shows a value elsewhere. The parts of a reference
that its text leaves out do not count. -/
inductive ShowsKeyword : Value → Prop where
  | null : ShowsKeyword .null
  | bool (b : Bool) : ShowsKeyword (.bool b)
  | list {items : List Value} {v : Value} : v ∈ items → ShowsKeyword v →
      ShowsKeyword (.list items)
  | dict {pairs : List (Value × Value)} {p : Value × Value} : p ∈ pairs → ShowsKeyword p.2 →
      ShowsKeyword (.dict pairs)
  | time {v : Value} : ShowsKeyword v → ShowsKeyword (.time v)
  | date {v : Value} : ShowsKeyword v → ShowsKeyword (.date v)
  | set {v : Value} : ShowsKeyword v → ShowsKeyword (.set v)
  | query {v : Value} : ShowsKeyword v → ShowsKeyword (.query v)
  | id {id collection database : Value} : collection.isNull = false → ShowsKeyword id →
      ShowsKeyword (.ref id collection database)
  | collection {id collection database : Value} : collection.isNull = false →
      schema? collection = .ok none → ShowsKeyword collection →
      ShowsKeyword (.ref id collection database)
  | database {id collection database : Value} : database.truthy = true → ShowsKeyword database →
      ShowsKeyword (.ref id collection database)

def isTagged : Value → Bool
  | .ref .. | .time _ | .date _ | .set _ | .query _ => true
  | _ => false

inductive HidesKeyword : Value → Prop where
  | tagged {v : Value} : isTagged v = true → ShowsKeyword v → HidesKeyword v
  | list {items : List Value} {v : Value} : v ∈ items → HidesKeyword v →
      HidesKeyword (.list items)
  | dict {pairs : List (Value × Value)} {p : Value × Value} : p ∈ pairs → HidesKeyword p.2 →
      HidesKeyword (.dict pairs)

section

variable {v id collection database : Value} {x y : Except Fault Str}

theorem Respelled.ownText (h : Respelled SameOutline (ShowsKeyword v) x y) :
    Respelled SameOutline (ShowsKeyword v) (textOr v x) (textOr v y) := by
  cases v with
  | str s => exact .same rfl nofun
  | _ => exact h

def scopeText (inDatabase : Bool) (database : Except Fault Str) : Except Fault Str :=
  if inDatabase then (fun text => ", " ++ text) <$> database else pure []

theorem Respelled.scope (h : Respelled SameOutline (ShowsKeyword database) x y) :
    Respelled SameOutline (database.truthy = true ∧ ShowsKeyword database)
      (scopeText database.truthy x) (scopeText database.truthy y) := by
  cases hpresent : database.truthy with
  | false => exact .same rfl (by simp)
  | true =>
      have hmap : ∀ z : Except Fault Str,
          scopeText true z = z >>= fun s => pure (", " ++ s) := by
        intro z
        cases z <;> rfl
      rw [hmap, hmap]
      refine Respelled.congr (P := ShowsKeyword database) ?_ (by simp)
      refine h.map fun {s t} hst => ⟨?_, List.append_cancel_left⟩
      simp only [SameOutline, outline_append] at hst ⊢
      rw [hst]

theorem showsKeyword_of_orphan :
    ShowsKeyword (.ref id .null database) ↔ database.truthy = true ∧ ShowsKeyword database := by
  constructor
  · intro h
    cases h with
    | id hparent _ => cases hparent
    | collection hparent _ _ => cases hparent
    | database hpresent hshows => exact ⟨hpresent, hshows⟩
  · rintro ⟨hpresent, hshows⟩
    exact .database hpresent hshows

theorem showsKeyword_of_document (hparent : collection.isNull = false) :
    ShowsKeyword (.ref id collection database) ↔
      (database.truthy = true ∧ ShowsKeyword database) ∨ ShowsKeyword id ∨
        (schema? collection = .ok none ∧ ShowsKeyword collection) := by
  constructor
  · intro h
    cases h with
    | id _ hshows => exact .inr (.inl hshows)
    | collection _ hschema hshows => exact .inr (.inr ⟨hschema, hshows⟩)
    | database hpresent hshows => exact .inl ⟨hpresent, hshows⟩
  · rintro (⟨hpresent, hshows⟩ | hshows | ⟨hschema, hshows⟩)
    · exact .database hpresent hshows
    · exact .id hparent hshows
    · exact .collection hparent hschema hshows

end

section

variable {id collection parent grandparent scope : Value} (inDatabase : Bool)
  (database shownParent own : Except Fault Str)

theorem refText_orphan (name : Str) (schema : Except Fault (Option String)) :
    refText (.str name) .null inDatabase database shownParent own schema =
      scopeText inDatabase database >>= fun scope => pure (Value.collectionHelper name ++ "(" ++
        scope.dropWhile isSeparator ++ ")") := by
  cases inDatabase <;> rfl

theorem refText_schema (name : String) :
    refText id (.ref parent grandparent scope) inDatabase database shownParent own
        (.ok (some name)) =
      scopeText inDatabase database >>= fun scope => textOr id own >>= fun text =>
        pure (name ++ "(\"" ++ text ++ "\"" ++ scope ++ ")") := by
  cases inDatabase <;> rfl

theorem refText_document :
    refText id (.ref parent grandparent scope) inDatabase database shownParent own (.ok none) =
      scopeText inDatabase database >>= fun scope => shownParent >>= fun above =>
        textOr id own >>= fun text =>
          pure ("Ref(" ++ above ++ ", \"" ++ text ++ "\"" ++ scope ++ ")") := by
  cases inDatabase <;> rfl

theorem refText_schemaFault (f : Fault) :
    refText id (.ref parent grandparent scope) inDatabase database shownParent own (.error f) =
      scopeText inDatabase database >>= fun _ => .error f := by
  cases inDatabase <;> rfl

theorem exists_refText_unnamed (h : ¬ ∃ s, id = .str s) :
    ∃ f, ∀ inDatabase database shownParent own schema,
      refText id .null inDatabase database shownParent own schema =
        scopeText inDatabase database >>= fun _ => .error f := by
  cases id with
  | str s => exact absurd ⟨s, rfl⟩ h
  | _ => exact ⟨_, fun inDatabase _ _ _ _ => by cases inDatabase <;> rfl⟩

theorem exists_refText_stray (h : collection.isRefOrNull = false) :
    ∃ f, ∀ inDatabase database shownParent own schema,
      refText id collection inDatabase database shownParent own schema =
        scopeText inDatabase database >>= fun _ => .error f := by
  cases collection with
  | null => cases h
  | ref parent grandparent scope => cases h
  | _ => exact ⟨_, fun inDatabase _ _ _ _ => by cases inDatabase <;> rfl⟩

end

section

variable {id collection database parent grandparent scope : Value} {inDatabase : Bool}
  {d d' p p' o o' : Except Fault Str} {P Q R : Prop}

theorem Respelled.orphan
    (hd : Respelled SameOutline (database.truthy = true ∧ ShowsKeyword database)
      (scopeText database.truthy d) (scopeText database.truthy d'))
    (schema : Except Fault (Option String)) :
    Respelled SameOutline (ShowsKeyword (.ref id .null database))
      (refText id .null database.truthy d p o schema)
      (refText id .null database.truthy d' p' o' schema) := by
  refine Respelled.congr ?_ showsKeyword_of_orphan.symm
  by_cases hname : ∃ s, id = .str s
  · obtain ⟨name, rfl⟩ := hname
    rw [refText_orphan, refText_orphan]
    refine hd.map fun {s t} hst => ⟨?_, fun heq => ?_⟩
    · have hdropped := outline_dropWhile hst
      simp only [SameOutline, outline_append]
      rw [hdropped]
    · exact eq_of_dropWhile hst (List.append_cancel_left (List.append_cancel_right heq))
  · obtain ⟨f, hf⟩ := exists_refText_unnamed hname
    rw [hf, hf]
    exact hd.throw f

theorem Respelled.schema (name : String)
    (hd : Respelled SameOutline P (scopeText inDatabase d) (scopeText inDatabase d'))
    (ho : Respelled SameOutline Q (textOr id o) (textOr id o')) :
    Respelled SameOutline (P ∨ Q)
      (refText id (.ref parent grandparent scope) inDatabase d p o (.ok (some name)))
      (refText id (.ref parent grandparent scope) inDatabase d' p' o' (.ok (some name))) := by
  rw [refText_schema, refText_schema]
  refine hd.map₂ ho fun {s t u w} hst huw => ⟨?_, fun heq => ?_⟩
  · simp only [SameOutline, outline_append] at hst huw ⊢
    rw [hst, huw]
  · have hclosed := List.append_cancel_right heq
    have hquoted : SameOutline (name ++ "(\"" ++ u ++ "\"") (name ++ "(\"" ++ w ++ "\"") := by
      simp only [SameOutline, outline_append] at huw ⊢
      rw [huw]
    obtain ⟨hleft, hscope⟩ := append_inj_of_outline hquoted hclosed
    exact ⟨hscope, List.append_cancel_left (List.append_cancel_right hleft)⟩

theorem Respelled.document
    (hd : Respelled SameOutline P (scopeText inDatabase d) (scopeText inDatabase d'))
    (hp : Respelled SameOutline R p p')
    (ho : Respelled SameOutline Q (textOr id o) (textOr id o')) :
    Respelled SameOutline (P ∨ Q ∨ R)
      (refText id (.ref parent grandparent scope) inDatabase d p o (.ok none))
      (refText id (.ref parent grandparent scope) inDatabase d' p' o' (.ok none)) := by
  rw [refText_document, refText_document]
  have hinner : Respelled SameOutline (R ∨ Q)
      (p >>= fun above => textOr id o >>= fun text => pure ("Ref(" ++ above ++ ", \"" ++ text))
      (p' >>= fun above => textOr id o' >>= fun text =>
        pure ("Ref(" ++ above ++ ", \"" ++ text)) := by
    refine hp.map₂ ho fun {s t u w} hst huw => ⟨?_, fun heq => ?_⟩
    · simp only [SameOutline, outline_append] at hst huw ⊢
      rw [hst, huw]
    · have hparent : SameOutline ("Ref(" ++ s ++ ", \"") ("Ref(" ++ t ++ ", \"") := by
        simp only [SameOutline, outline_append] at hst ⊢
        rw [hst]
      obtain ⟨hleft, htext⟩ := append_inj_of_outline hparent heq
      exact ⟨List.append_cancel_left (List.append_cancel_right hleft), htext⟩
  have hjoined : ∀ {s t u w}, SameOutline s t → SameOutline u w →
      SameOutline (u ++ "\"" ++ s ++ ")") (w ++ "\"" ++ t ++ ")") ∧
        (u ++ "\"" ++ s ++ ")" = w ++ "\"" ++ t ++ ")" → s = t ∧ u = w) := by
    intro s t u w hst huw
    simp only [SameOutline] at hst huw
    refine ⟨by simp only [SameOutline, outline_append, hst, huw], fun heq => ?_⟩
    have hclosed := List.append_cancel_right heq
    have hquoted : SameOutline (u ++ "\"") (w ++ "\"") := by
      simp only [SameOutline, outline_append, huw]
    obtain ⟨hleft, hscope⟩ := append_inj_of_outline hquoted hclosed
    exact ⟨hscope, List.append_cancel_right hleft⟩
  refine Respelled.congr ?_ (or_congr_right or_comm)
  simpa using hd.map₂ hinner hjoined

theorem Respelled.reference (hd : Respelled SameOutline (ShowsKeyword database) d d')
    (hp : Respelled SameOutline (ShowsKeyword collection) p p')
    (ho : Respelled SameOutline (ShowsKeyword id) o o') :
    Respelled SameOutline (ShowsKeyword (.ref id collection database))
      (refText id collection database.truthy d p o (schema? collection))
      (refText id collection database.truthy d' p' o' (schema? collection)) := by
  cases hstray : collection.isRefOrNull with
  | false =>
      obtain ⟨f, hf⟩ := exists_refText_stray hstray
      rw [hf, hf]
      exact hd.scope.throw f
  | true =>
      cases collection with
      | null => exact hd.scope.orphan _
      | ref parent grandparent scope =>
          refine Respelled.congr ?_ (showsKeyword_of_document rfl).symm
          cases hschema : schema? (.ref parent grandparent scope) with
          | error f =>
              rw [refText_schemaFault, refText_schemaFault]
              exact hd.scope.throw f
          | ok found =>
              cases found with
              | some name =>
                  refine Respelled.congr (hd.scope.schema name ho.ownText) ?_
                  simp
              | none =>
                  refine Respelled.congr (hd.scope.document hp ho.ownText) ?_
                  simp
      | _ => cases hstray

end

theorem sameOutline_null : SameOutline "None" "null" := by
  unfold SameOutline
  decide

theorem sameOutline_bool (b : Bool) :
    SameOutline (if b then "True" else "False") (if b then "true" else "false") := by
  unfold SameOutline
  cases b <;> decide

mutual

theorem inspect_respelled (v : Value) :
    Respelled SameOutline (ShowsKeyword v) v.inspect (spelled v) := by
  cases v with
  | null => exact .result sameOutline_null (by simp [ShowsKeyword.null])
  | bool b => exact .result (sameOutline_bool b) (by cases b <;> simp [ShowsKeyword.bool])
  | list items =>
      refine Respelled.congr ((inspectAll_respelled items).bracketed "[" "]") ?_
      exact ⟨fun ⟨v, hv, hshows⟩ => .list hv hshows, fun | .list hv hshows => ⟨_, hv, hshows⟩⟩
  | dict pairs =>
      refine Respelled.congr ((inspectPairs_respelled pairs).bracketed "\x7b" "\x7d") ?_
      exact ⟨fun ⟨p, hp, hshows⟩ => .dict hp hshows, fun | .dict hp hshows => ⟨_, hp, hshows⟩⟩
  | ref id collection database =>
      exact (inspect_respelled database).reference (inspect_respelled collection)
        (inspect_respelled id)
  | time value =>
      refine Respelled.congr ((inspect_respelled value).ownText.framed "Time(\"" "\")") ?_
      exact ⟨.time, fun | .time hshows => hshows⟩
  | date value =>
      refine Respelled.congr ((inspect_respelled value).ownText.framed "Date(\"" "\")") ?_
      exact ⟨.date, fun | .date hshows => hshows⟩
  | set value =>
      refine Respelled.congr ((inspect_respelled value).framed "SetRef(" ")") ?_
      exact ⟨.set, fun | .set hshows => hshows⟩
  | query value =>
      refine Respelled.congr ((inspect_respelled value).framed "Query(" ")") ?_
      exact ⟨.query, fun | .query hshows => hshows⟩
  | _ => exact .unchanged _ (fun _ => rfl) nofun

theorem inspectAll_respelled (vs : List Value) :
    Respelled SameOutlines (∃ v ∈ vs, ShowsKeyword v) (inspectAll vs) (spelledAll vs) := by
  cases vs with
  | nil => exact .same rfl (by simp)
  | cons v vs =>
      refine Respelled.congr ((inspect_respelled v).cons (inspectAll_respelled vs)) ?_
      simp

theorem inspectPairs_respelled (ps : List (Value × Value)) :
    Respelled SameOutlines (∃ p ∈ ps, ShowsKeyword p.2) (inspectPairs ps) (spelledPairs ps) := by
  cases ps with
  | nil => exact .same rfl (by simp)
  | cons p ps =>
      obtain ⟨k, v⟩ := p
      refine Respelled.congr ((inspect_respelled v).consEntry (inspect k)
        (inspectPairs_respelled ps)) ?_
      simp

end

mutual

theorem line_plain (v : Value) : (View.plain v).line = v.inspect := by
  cases v with
  | list items =>
      rw [View.plain, View.line, partLines_plainAll]
      rfl
  | tuple items =>
      rw [View.plain, View.line, partLines_plainAll, inspect]
      cases inspectAll items with
      | error f => rfl
      | ok texts =>
          match texts with
          | [] => rfl
          | [text] =>
              have htext : "(" ++ (text ++ ",") ++ ")" = "(" ++ text ++ ("," ++ ")") := by
                simp only [List.append_assoc]
              exact congrArg Except.ok htext
          | _ :: _ :: _ => rfl
  | dict pairs =>
      rw [View.plain, View.line, partLines_plainPairs]
      rfl
  | _ => rfl

theorem partLines_plainAll (vs : List Value) : partLines (plainAll vs) = inspectAll vs := by
  cases vs with
  | nil => rfl
  | cons v vs => rw [plainAll, partLines, line_plain v, partLines_plainAll vs, inspectAll]

theorem partLines_plainPairs (ps : List (Value × Value)) :
    partLines (plainPairs ps) = inspectPairs ps := by
  cases ps with
  | nil => rfl
  | cons p ps =>
      rw [plainPairs, partLines, line_plain p.2, partLines_plainPairs ps, inspectPairs]

end

theorem hidesKeyword_of_tagged {v : Value} (h : isTagged v = true) :
    HidesKeyword v ↔ ShowsKeyword v := by
  constructor
  · intro hhides
    cases hhides with
    | tagged _ hshows => exact hshows
    | list _ _ => cases h
    | dict _ _ => cases h
  · exact .tagged h

mutual

theorem line_respelled (v : Value) :
    Respelled SameOutline (HidesKeyword v) (View.ofValue v).line (spelled v) := by
  cases v with
  | list items =>
      rw [View.ofValue, View.line]
      refine Respelled.congr ((viewAll_respelled items).bracketed "[" "]") ?_
      constructor
      · rintro ⟨v, hv, hhides⟩
        exact .list hv hhides
      · intro h
        cases h with
        | tagged htagged _ => cases htagged
        | list hv hhides => exact ⟨_, hv, hhides⟩
  | dict pairs =>
      rw [View.ofValue, View.line]
      refine Respelled.congr ((viewPairs_respelled pairs).bracketed "\x7b" "\x7d") ?_
      constructor
      · rintro ⟨p, hp, hhides⟩
        exact .dict hp hhides
      · intro h
        cases h with
        | tagged htagged _ => cases htagged
        | dict hp hhides => exact ⟨_, hp, hhides⟩
  | tuple items =>
      have hline : (View.ofValue (.tuple items)).line = inspect (.tuple items) :=
        line_plain (.tuple items)
      rw [hline]
      exact .unchanged _ (fun _ => rfl) nofun
  | ref id collection database =>
      exact (inspect_respelled _).congr (hidesKeyword_of_tagged rfl).symm
  | time value => exact (inspect_respelled _).congr (hidesKeyword_of_tagged rfl).symm
  | date value => exact (inspect_respelled _).congr (hidesKeyword_of_tagged rfl).symm
  | set value => exact (inspect_respelled _).congr (hidesKeyword_of_tagged rfl).symm
  | query value => exact (inspect_respelled _).congr (hidesKeyword_of_tagged rfl).symm
  | _ => exact .unchanged _ (fun _ => rfl) nofun

theorem viewAll_respelled (vs : List Value) :
    Respelled SameOutlines (∃ v ∈ vs, HidesKeyword v) (partLines (viewAll vs)) (spelledAll vs) := by
  cases vs with
  | nil => exact .same rfl (by simp)
  | cons v vs =>
      refine Respelled.congr ((line_respelled v).cons (viewAll_respelled vs)) ?_
      simp

theorem viewPairs_respelled (ps : List (Value × Value)) :
    Respelled SameOutlines (∃ p ∈ ps, HidesKeyword p.2) (partLines (viewPairs ps))
      (spelledPairs ps) := by
  cases ps with
  | nil => exact .same rfl (by simp)
  | cons p ps =>
      obtain ⟨k, v⟩ := p
      refine Respelled.congr ((line_respelled v).consEntry (inspect k) (viewPairs_respelled ps)) ?_
      simp

end

def resultText (answer : Value) : Except Fault Str := do
  (View.ofValue (← answer.decode)).line

theorem resultText_spelled_iff (answer : Value) :
    ((∃ s, resultText answer = .ok s) ↔ ∃ s, (answer.decode >>= spelled) = .ok s) ∧
      ∀ s, resultText answer = .ok s →
        ((answer.decode >>= spelled) = .ok s ↔
          ∀ v, answer.decode = .ok v → ¬ HidesKeyword v) := by
  unfold resultText
  cases answer.decode with
  | error f => exact ⟨Iff.rfl, nofun⟩
  | ok v =>
      have hline := line_respelled v
      have hfree : (∀ w, Except.ok v = (.ok w : Except Fault Value) → ¬ HidesKeyword w) ↔
          ¬ HidesKeyword v := by simp
      rw [hfree]
      change ((∃ s, (View.ofValue v).line = .ok s) ↔ ∃ s, spelled v = .ok s) ∧
        ∀ s, (View.ofValue v).line = .ok s → (spelled v = .ok s ↔ ¬ HidesKeyword v)
      generalize (View.ofValue v).line = shown at hline ⊢
      generalize spelled v = right at hline ⊢
      cases hline with
      | fault f => exact ⟨Iff.rfl, nofun⟩
      | @result s t _ heq =>
          refine ⟨⟨fun _ => ⟨t, rfl⟩, fun _ => ⟨s, rfl⟩⟩, ?_⟩
          rintro s' ⟨⟩
          rw [← heq, Except.ok.injEq]
          exact eq_comm

def plainAnswer : Value :=
  .dict [(.str "a", .list [.null, .bool true]),
    (.str "b", .dict [(.str "@set", .dict [(.str "@ref", .dict [(.str "id", .str "roles")])])])]

def plainText : String :=
  "\x7b'a': [null, true], 'b': SetRef(Roles())\x7d"

theorem resultText_spelled_iff_plainAnswer :
    resultText plainAnswer = .ok plainText ∧
      ((plainAnswer.decode >>= spelled) = .ok plainText ↔
        ∀ v, plainAnswer.decode = .ok v → ¬ HidesKeyword v) := by
  have hshown : resultText plainAnswer = .ok plainText := by decide +kernel
  exact ⟨hshown, (resultText_spelled_iff plainAnswer).2 plainText hshown⟩

def hiddenNull : Value :=
  .dict [(.str "@set", .dict [(.str "a", .null)])]

theorem resultText_hiddenNull :
    resultText hiddenNull = .ok "SetRef(\x7b'a': None\x7d)" ∧
      (hiddenNull.decode >>= spelled) = .ok "SetRef(\x7b'a': null\x7d)" := by
  decide +kernel

end QueryShell.Render
