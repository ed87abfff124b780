import QueryShell.Proofs.Computation
import QueryShell.Proofs.Decimal.Notation
import QueryShell.Proofs.Text.Quoted
import QueryShell.Value.Equality

namespace QueryShell.Value

open Decimal (integerChars shellStyle isNumberChar StartsNumber)

mutual

inductive Spelling : Value → List Char → Prop where
  | null : Spelling .null ['N', 'o', 'n', 'e']
  | bool (b : Bool) :
      Spelling (.bool b) (if b then ['T', 'r', 'u', 'e'] else ['F', 'a', 'l', 's', 'e'])
  | int (n : Int) : Spelling (.int n) (integerChars n)
  | float (x : Float) : Spelling (.float x) (shellStyle.chars x)
  | str (s : Str) : Spelling (.str s) (Text.quoteChars s)
  | bytes (data : List UInt8) : Spelling (.bytes data) (Text.quotedBytes data).toList
  | list {items : List Value} {cs : List Char} : Joined items cs →
      Spelling (.list items) ('[' :: (cs.drop 2 ++ [']']))
  | dict {pairs : List (Value × Value)} {cs : List Char} : JoinedEntries pairs cs →
      Spelling (.dict pairs) ('{' :: (cs.drop 2 ++ ['}']))
  | expr {pairs : List (Value × Value)} {cs : List Char} : JoinedEntries pairs cs →
      Spelling (.expr pairs) ('E' :: 'x' :: 'p' :: 'r' :: '(' :: '{' :: (cs.drop 2 ++ ['}', ')']))

inductive Joined : List Value → List Char → Prop where
  | nil : Joined [] []
  | cons {v : Value} {vs : List Value} {cs ds : List Char} : Spelling v cs → Joined vs ds →
      Joined (v :: vs) (',' :: ' ' :: (cs ++ ds))

inductive JoinedEntries : List (Value × Value) → List Char → Prop where
  | nil : JoinedEntries [] []
  | cons {k v : Value} {ps : List (Value × Value)} {cs ds es : List Char} : Spelling k cs →
      Spelling v ds → JoinedEntries ps es →
      JoinedEntries ((k, v) :: ps) (',' :: ' ' :: (cs ++ ':' :: ' ' :: (ds ++ es)))

end

def stops : List Char :=
  [',', ':', ']', '}']

def Stopped (rest : List Char) : Prop :=
  ∀ c ∈ rest.head?, c ∈ stops

theorem stopped_nil : Stopped [] := by
  intro c hc
  cases hc

theorem stopped_cons {c : Char} (h : c ∈ stops) (rest : List Char) : Stopped (c :: rest) := by
  intro d hd
  cases hd
  exact h

inductive Lead where
  | null
  | bool
  | number
  | text
  | bytes
  | list
  | dict
  | expr
  deriving DecidableEq

def Lead.ofChar (c : Char) : Lead :=
  if c = 'N' then .null
  else if c = 'T' ∨ c = 'F' then .bool
  else if c = '\'' ∨ c = '"' then .text
  else if c = 'b' then .bytes
  else if c = '[' then .list
  else if c = '{' then .dict
  else if c = 'E' then .expr
  else .number

def lead : Value → Lead
  | .null => .null
  | .bool _ => .bool
  | .str _ => .text
  | .bytes _ => .bytes
  | .list _ => .list
  | .dict _ => .dict
  | .expr _ => .expr
  | _ => .number

theorem lead_of_startsNumber {c : Char} (h : StartsNumber c) :
    c ∉ stops ∧ Lead.ofChar c = .number := by
  rcases h with hdigit | hmark
  · have hne : ∀ d, Text.isDigit d = false → c ≠ d := by
      rintro d hd rfl
      exact absurd hdigit (by simp [hd])
    have hcomma := hne ',' (by decide)
    have hcolon := hne ':' (by decide)
    have hbracket := hne ']' (by decide)
    have hbrace := hne '}' (by decide)
    refine ⟨by simp [stops, *], ?_⟩
    simp [Lead.ofChar, hne 'N' (by decide), hne 'T' (by decide), hne 'F' (by decide),
      hne '\'' (by decide), hne '"' (by decide), hne 'b' (by decide), hne '[' (by decide),
      hne '{' (by decide), hne 'E' (by decide)]
  · have hall : ∀ d ∈ ['-', 'i', 'n'], d ∉ stops ∧ Lead.ofChar d = .number := by
      simp [stops, Lead.ofChar]
    exact hall c hmark

theorem Spelling.lead_eq {v : Value} {cs : List Char} (h : Spelling v cs) :
    ∃ c more, cs = c :: more ∧ c ∉ stops ∧ Lead.ofChar c = lead v := by
  cases h with
  | null => exact ⟨'N', _, rfl, by decide, rfl⟩
  | bool b =>
      cases b with
      | false => exact ⟨'F', _, rfl, by decide, rfl⟩
      | true => exact ⟨'T', _, rfl, by decide, rfl⟩
  | int n =>
      obtain ⟨c, more, hc, hstart⟩ := Decimal.exists_start_integerChars n
      exact ⟨c, more, hc, lead_of_startsNumber hstart⟩
  | float x =>
      obtain ⟨c, more, hc, hstart⟩ := (Decimal.shows_chars x).exists_start
      exact ⟨c, more, hc, lead_of_startsNumber hstart⟩
  | str s =>
      refine ⟨_, _, rfl, ?_⟩
      rcases Text.quoteFor_cases (s.contains (.char '\'')) (s.contains (.char '"')) with hq | hq <;>
        rw [hq] <;> exact ⟨by decide, rfl⟩
  | bytes data =>
      have htext : (Text.quotedBytes data).toList =
          'b' :: (Text.quotedBytes data).toList.tail := by
        rw [Text.quotedBytes, String.toList_ofList]
        rfl
      exact ⟨'b', _, htext, by decide, rfl⟩
  | list _ => exact ⟨'[', _, rfl, by decide, rfl⟩
  | dict _ => exact ⟨'{', _, rfl, by decide, rfl⟩
  | expr _ => exact ⟨'E', _, rfl, by decide, rfl⟩

theorem not_numberChar_of_stop {c : Char} (h : c ∈ stops) : isNumberChar c = false := by
  simp only [stops, List.mem_cons, List.not_mem_nil, or_false] at h
  rcases h with rfl | rfl | rfl | rfl <;> decide

section

variable {rest rest' : List Char}

theorem number_inj {cs ds : List Char} (hcs : ∀ c ∈ cs, isNumberChar c = true)
    (hds : ∀ d ∈ ds, isNumberChar d = true) (hrest : Stopped rest) (hrest' : Stopped rest')
    (h : cs ++ rest = ds ++ rest') : cs = ds ∧ rest = rest' := by
  have hstop : ∀ {more : List Char}, Stopped more → more.takeWhile isNumberChar = [] := by
    intro more hmore
    cases more with
    | nil => rfl
    | cons c more =>
        rw [List.takeWhile_cons_of_neg (by simp [not_numberChar_of_stop (hmore c rfl)])]
  have htake := congrArg (List.takeWhile isNumberChar) h
  rw [List.takeWhile_append_of_pos hcs, List.takeWhile_append_of_pos hds, hstop hrest,
    hstop hrest', List.append_nil, List.append_nil] at htake
  subst htake
  exact ⟨rfl, List.append_cancel_left h⟩

theorem Spelling.append_ne {v : Value} {cs : List Char} (h : Spelling v cs) (more : List Char)
    {c : Char} (hc : c ∈ stops) : c :: rest ≠ cs ++ more := by
  obtain ⟨d, ds, rfl, hd, -⟩ := h.lead_eq
  intro heq
  exact hd ((List.cons.inj heq).1 ▸ hc)

theorem Joined.front {vs ws : List Value} {cs ds : List Char} (hvs : Joined vs cs)
    (hws : Joined ws ds) (h : cs.drop 2 ++ ']' :: rest = ds.drop 2 ++ ']' :: rest') :
    cs ++ ']' :: rest = ds ++ ']' :: rest' := by
  have hclose : ']' ∈ stops := by decide
  cases hvs with
  | nil =>
      cases hws with
      | nil => exact h
      | cons hw _ => exact absurd (h.trans (List.append_assoc ..)) (hw.append_ne _ hclose)
  | cons hv _ =>
      cases hws with
      | nil => exact absurd (h.symm.trans (List.append_assoc ..)) (hv.append_ne _ hclose)
      | cons _ _ => exact congrArg (',' :: ' ' :: ·) h

theorem JoinedEntries.front {ps qs : List (Value × Value)} {cs ds : List Char}
    (hps : JoinedEntries ps cs) (hqs : JoinedEntries qs ds)
    (h : cs.drop 2 ++ '}' :: rest = ds.drop 2 ++ '}' :: rest') :
    cs ++ '}' :: rest = ds ++ '}' :: rest' := by
  have hclose : '}' ∈ stops := by decide
  cases hps with
  | nil =>
      cases hqs with
      | nil => exact h
      | cons hk _ _ => exact absurd (h.trans (List.append_assoc ..)) (hk.append_ne _ hclose)
  | cons hk _ _ =>
      cases hqs with
      | nil => exact absurd (h.symm.trans (List.append_assoc ..)) (hk.append_ne _ hclose)
      | cons _ _ _ => exact congrArg (',' :: ' ' :: ·) h

theorem Joined.stopped {vs : List Value} {cs : List Char} (h : Joined vs cs) :
    Stopped (cs ++ ']' :: rest) := by
  cases h with
  | nil => exact stopped_cons (by decide) rest
  | cons _ _ => exact stopped_cons (by decide) _

theorem JoinedEntries.stopped {ps : List (Value × Value)} {cs : List Char}
    (h : JoinedEntries ps cs) : Stopped (cs ++ '}' :: rest) := by
  cases h with
  | nil => exact stopped_cons (by decide) rest
  | cons _ _ _ => exact stopped_cons (by decide) _

end

mutual

theorem Spelling.inj {v w : Value} {cs ds rest rest' : List Char} (hv : Spelling v cs)
    (hw : Spelling w ds) (hrest : Stopped rest) (hrest' : Stopped rest')
    (h : cs ++ rest = ds ++ rest') : v = w ∧ rest = rest' := by
  have hlead : lead v = lead w := by
    obtain ⟨c, more, rfl, -, hc⟩ := hv.lead_eq
    obtain ⟨d, more', rfl, -, hd⟩ := hw.lead_eq
    rw [← hc, ← hd, (List.cons.inj h).1]
  cases hv with
  | null =>
      cases hw with
      | null => simpa using h
      | _ => cases hlead
  | bool b =>
      cases hw with
      | bool c => cases b <;> cases c <;> simp at h ⊢ <;> exact h
      | _ => cases hlead
  | int n =>
      cases hw with
      | int m =>
          obtain ⟨hmn, hrest⟩ := number_inj (Decimal.isNumberChar_integerChars n)
            (Decimal.isNumberChar_integerChars m) hrest hrest' h
          exact ⟨by rw [Decimal.integerChars_inj hmn], hrest⟩
      | float y =>
          obtain ⟨hny, -⟩ := number_inj (Decimal.isNumberChar_integerChars n)
            (Decimal.shows_chars y).isNumberChar hrest hrest' h
          exact absurd hny (Decimal.integerChars_ne_chars n y)
      | _ => cases hlead
  | float x =>
      cases hw with
      | int m =>
          obtain ⟨hxm, -⟩ := number_inj (Decimal.shows_chars x).isNumberChar
            (Decimal.isNumberChar_integerChars m) hrest hrest' h
          exact absurd hxm.symm (Decimal.integerChars_ne_chars m x)
      | float y =>
          obtain ⟨hxy, hrest⟩ := number_inj (Decimal.shows_chars x).isNumberChar
            (Decimal.shows_chars y).isNumberChar hrest hrest' h
          exact ⟨by rw [Decimal.chars_inj hxy], hrest⟩
      | _ => cases hlead
  | str s =>
      cases hw with
      | str t =>
          obtain ⟨hst, hrest⟩ := Text.quoteChars_inj h
          exact ⟨by rw [hst], hrest⟩
      | _ => cases hlead
  | bytes data =>
      cases hw with
      | bytes data' =>
          obtain ⟨rfl, hrest⟩ := Text.quotedBytes_inj h
          exact ⟨rfl, hrest⟩
      | _ => cases hlead
  | list hitems =>
      cases hw with
      | list hitems' =>
          simp only [List.cons_append, List.cons.injEq, true_and, List.append_assoc,
            List.nil_append] at h
          obtain ⟨rfl, hrest⟩ := hitems.inj hitems' (hitems.front hitems' h)
          exact ⟨rfl, hrest⟩
      | _ => cases hlead
  | dict hpairs =>
      cases hw with
      | dict hpairs' =>
          simp only [List.cons_append, List.cons.injEq, true_and, List.append_assoc,
            List.nil_append] at h
          obtain ⟨rfl, hrest⟩ := hpairs.inj hpairs' (hpairs.front hpairs' h)
          exact ⟨rfl, hrest⟩
      | _ => cases hlead
  | expr hpairs =>
      cases hw with
      | expr hpairs' =>
          simp only [List.cons_append, List.cons.injEq, true_and, List.append_assoc,
            List.nil_append] at h
          obtain ⟨rfl, hrest⟩ := hpairs.inj hpairs' (hpairs.front hpairs' h)
          exact ⟨rfl, (List.cons.inj hrest).2⟩
      | _ => cases hlead

theorem Joined.inj {vs ws : List Value} {cs ds rest rest' : List Char} (hvs : Joined vs cs)
    (hws : Joined ws ds) (h : cs ++ ']' :: rest = ds ++ ']' :: rest') : vs = ws ∧ rest = rest' := by
  cases hvs with
  | nil =>
      cases hws with
      | nil => exact ⟨rfl, (List.cons.inj h).2⟩
      | cons _ _ => exact absurd (List.cons.inj h).1 (by decide)
  | cons hv hvs =>
      cases hws with
      | nil => exact absurd (List.cons.inj h).1 (by decide)
      | cons hw hws =>
          simp only [List.cons_append, List.cons.injEq, true_and, List.append_assoc] at h
          obtain ⟨rfl, hmore⟩ := hv.inj hw hvs.stopped hws.stopped h
          obtain ⟨rfl, hrest⟩ := hvs.inj hws hmore
          exact ⟨rfl, hrest⟩

theorem JoinedEntries.inj {ps qs : List (Value × Value)} {cs ds rest rest' : List Char}
    (hps : JoinedEntries ps cs) (hqs : JoinedEntries qs ds)
    (h : cs ++ '}' :: rest = ds ++ '}' :: rest') : ps = qs ∧ rest = rest' := by
  have hcolon : ':' ∈ stops := by decide
  cases hps with
  | nil =>
      cases hqs with
      | nil => exact ⟨rfl, (List.cons.inj h).2⟩
      | cons _ _ _ => exact absurd (List.cons.inj h).1 (by decide)
  | cons hk hv hps =>
      cases hqs with
      | nil => exact absurd (List.cons.inj h).1 (by decide)
      | cons hk' hv' hqs =>
          simp only [List.cons_append, List.cons.injEq, true_and, List.append_assoc] at h
          obtain ⟨rfl, hvalue⟩ := hk.inj hk' (stopped_cons hcolon _) (stopped_cons hcolon _) h
          simp only [List.cons.injEq, true_and] at hvalue
          obtain ⟨rfl, hmore⟩ := hv.inj hv' hps.stopped hqs.stopped hvalue
          obtain ⟨rfl, hrest⟩ := hps.inj hqs hmore
          exact ⟨rfl, hrest⟩

end

structure Keys (keys : List Value) : Prop where
  hashable : ∀ k ∈ keys, k.checkHashable = .ok ()
  distinct : keys.Pairwise fun k l => sameKey k l = false

inductive Composed : Value → Prop where
  | null : Composed .null
  | bool (b : Bool) : Composed (.bool b)
  | int (n : Int) : Composed (.int n)
  | float (x : Float) : Composed (.float x)
  | str (s : Str) : Composed (.str s)
  | bytes (data : List UInt8) : Composed (.bytes data)
  | list {items : List Value} : (∀ v ∈ items, Composed v) → Composed (.list items)
  | dict {pairs : List (Value × Value)} : Keys (pairs.map Prod.fst) →
      (∀ p ∈ pairs, Composed p.1) → (∀ p ∈ pairs, Composed p.2) → Composed (.dict pairs)
  | expr {pairs : List (Value × Value)} : Keys (pairs.map Prod.fst) →
      (∀ p ∈ pairs, Composed p.1) → (∀ p ∈ pairs, Composed p.2) → Composed (.expr pairs)

def Shown (v : Value) : Prop :=
  ∃ cs, inspect v = .ok (Str.ofChars cs) ∧ Spelling v cs

def withCommas (texts : List Str) : Str :=
  texts.flatMap fun s => .char ',' :: .char ' ' :: s

theorem commaSeparated_eq (texts : List Str) :
    commaSeparated texts = (withCommas texts).drop 2 := by
  rw [commaSeparated]
  induction texts with
  | nil => rfl
  | cons s texts ih =>
      cases texts with
      | nil => simp [withCommas]
      | cons t texts =>
          rw [List.intercalate_cons_cons, ih]
          simp [withCommas, Str.of]

theorem commaSeparated_ofChars {texts : List Str} {cs : List Char}
    (h : withCommas texts = Str.ofChars cs) : commaSeparated texts = Str.ofChars (cs.drop 2) := by
  rw [commaSeparated_eq, h]
  exact List.map_drop.symm

theorem exists_joined {items : List Value} (h : ∀ v ∈ items, Shown v) :
    ∃ texts cs, inspectAll items = .ok texts ∧ withCommas texts = Str.ofChars cs ∧
      Joined items cs := by
  induction items with
  | nil => exact ⟨[], [], rfl, rfl, .nil⟩
  | cons v items ih =>
      obtain ⟨cs, hcs, hspelling⟩ := h v (by simp)
      obtain ⟨texts, ds, htexts, hds, hjoined⟩ := ih fun w hw => h w (by simp [hw])
      refine ⟨Str.ofChars cs :: texts, _, ?_, ?_, .cons hspelling hjoined⟩
      · simp only [inspectAll, hcs, htexts]
        rfl
      · rw [withCommas, List.flatMap_cons, ← withCommas, hds]
        simp

theorem exists_joinedEntries {pairs : List (Value × Value)} (hkeys : ∀ p ∈ pairs, Shown p.1)
    (hvalues : ∀ p ∈ pairs, Shown p.2) :
    ∃ texts cs, inspectPairs pairs = .ok texts ∧ withCommas texts = Str.ofChars cs ∧
      JoinedEntries pairs cs := by
  induction pairs with
  | nil => exact ⟨[], [], rfl, rfl, .nil⟩
  | cons p pairs ih =>
      obtain ⟨cs, hcs, hkey⟩ := hkeys p (by simp)
      obtain ⟨ds, hds, hvalue⟩ := hvalues p (by simp)
      obtain ⟨texts, es, htexts, hes, hjoined⟩ := ih (fun q hq => hkeys q (by simp [hq]))
        fun q hq => hvalues q (by simp [hq])
      refine ⟨entryText (Str.ofChars cs) (Str.ofChars ds) :: texts, _, ?_, ?_,
        .cons hkey hvalue hjoined⟩
      · simp only [inspectPairs, hcs, hds, htexts]
        rfl
      · rw [withCommas, List.flatMap_cons, ← withCommas, hes]
        simp [entryText, Str.of]

theorem Composed.shown {v : Value} (h : Composed v) : Shown v := by
  induction h with
  | null => exact ⟨_, rfl, .null⟩
  | bool b =>
      cases b with
      | false => exact ⟨_, rfl, .bool false⟩
      | true => exact ⟨_, rfl, .bool true⟩
  | int n =>
      refine ⟨_, rfl, ?_⟩
      rw [Decimal.integer, String.toList_ofList]
      exact .int n
  | float x =>
      refine ⟨_, rfl, ?_⟩
      rw [Decimal.float, String.toList_ofList]
      exact .float x
  | str s =>
      refine ⟨_, rfl, ?_⟩
      rw [Text.quoted, String.toList_ofList]
      exact .str s
  | bytes data => exact ⟨_, rfl, .bytes data⟩
  | @list items _ ih =>
      obtain ⟨texts, cs, htexts, hcs, hjoined⟩ := exists_joined ih
      refine ⟨_, ?_, .list hjoined⟩
      simp only [inspect, htexts, Str.ofChars_cons, Str.ofChars_append,
        ← commaSeparated_ofChars hcs]
      rfl
  | @dict pairs _ _ _ ihkeys ihvalues =>
      obtain ⟨texts, cs, htexts, hcs, hjoined⟩ := exists_joinedEntries ihkeys ihvalues
      refine ⟨_, ?_, .dict hjoined⟩
      simp only [inspect, htexts, Str.ofChars_cons, Str.ofChars_append,
        ← commaSeparated_ofChars hcs]
      rfl
  | @expr pairs _ _ _ ihkeys ihvalues =>
      obtain ⟨texts, cs, htexts, hcs, hjoined⟩ := exists_joinedEntries ihkeys ihvalues
      refine ⟨_, ?_, .expr hjoined⟩
      simp only [inspect, htexts, Str.ofChars_cons, Str.ofChars_append,
        ← commaSeparated_ofChars hcs]
      rfl

theorem Composed.eq_of_inspect {v w : Value} {s : Str} (hv : Composed v) (hw : Composed w)
    (h : inspect v = .ok s) (h' : inspect w = .ok s) : v = w := by
  obtain ⟨t, ht, hspelling⟩ := hv.shown
  obtain ⟨t', ht', hspelling'⟩ := hw.shown
  have hsame : t = t' := by
    rw [← Str.ofChars_inj]
    exact Except.ok.inj (ht.symm.trans (h.trans (h'.symm.trans ht')))
  subst hsame
  exact (hspelling.inj hspelling' stopped_nil stopped_nil rfl).1

end QueryShell.Value
