import QueryShell.Json.Reader
import QueryShell.Json.Writer
import QueryShell.Proofs.Value.TextKeys

namespace QueryShell.Json

open Text (hexDigits length_hexDigits)
open Value (textKeyed putText)

theorem fourHex?_hexDigits : ∀ n < 0x20, fourHex? (.ofChars (hexDigits 4 n)) = some n := by
  decide

theorem ofNat_of_lt : ∀ n < 0x20, CodePoint.ofNat n = .char (Char.ofNat n) := by
  decide

theorem isHighSurrogate_of_lt {n : Nat} (h : n < 0x20) : isHighSurrogate n = false := by
  simp [isHighSurrogate]
  omega

theorem length_ofChars (cs : List Char) : (Str.ofChars cs).length = cs.length :=
  List.length_map _

theorem unicodeEscape_hexDigits {n : Nat} (h : n < 0x20) (offset : Nat) (p : CodePoint)
    (rest : Str) :
    unicodeEscape ⟨offset, Str.ofChars (hexDigits 4 n) ++ p :: rest⟩ =
      .ok (.char (Char.ofNat n), ⟨offset + 4, p :: rest⟩) := by
  have hlength : (Str.ofChars (hexDigits 4 n)).length = 4 := by
    rw [length_ofChars, length_hexDigits]
  have hcode : fourHex? (Str.ofChars (hexDigits 4 n) ++ p :: rest) = some n := by
    rw [← fourHex?_hexDigits n h]
    simp [fourHex?, hlength, List.take_of_length_le]
  have hdrop : (Str.ofChars (hexDigits 4 n) ++ p :: rest).drop 4 = p :: rest := by
    simp [hlength]
  simp only [unicodeEscape, hcode, hdrop]
  split
  · next code second hsome hrest =>
      cases hsome
      simp [isHighSurrogate_of_lt h, ofNat_of_lt n h, Cursor.advance, hdrop]
  · next code d more _ hsome hrest =>
      cases hsome
      simp [ofNat_of_lt n h, Cursor.advance, hdrop]
  · next hnone => exact absurd rfl (hnone n p rest rfl)

inductive WrittenAs : CodePoint → Str → Prop where
  | named {c e : Char} : namedEscape? e = some c → e ≠ 'u' →
      WrittenAs (.char c) [.char '\\', .char e]
  | numbered {c : Char} : c.toNat < 0x20 →
      WrittenAs (.char c) (.char '\\' :: .char 'u' :: Str.ofChars (hexDigits 4 c.toNat))
  | plain {p : CodePoint} : p ≠ .char '"' → p ≠ .char '\\' → 0x20 ≤ p.toNat → WrittenAs p [p]

theorem writtenAs_escapePoint (p : CodePoint) : WrittenAs p (escapePoint p) := by
  cases p with
  | surrogate index =>
      refine .plain (by simp) (by simp) ?_
      simp only [CodePoint.toNat]
      omega
  | char c =>
      simp only [escapePoint, escapeChar]
      repeat' split
      · next hc => subst hc; exact .named rfl (by decide)
      · next hc => subst hc; exact .named rfl (by decide)
      · next hc => subst hc; exact .named rfl (by decide)
      · next hc => subst hc; exact .named rfl (by decide)
      · next hc => subst hc; exact .named rfl (by decide)
      · next hc => subst hc; exact .named rfl (by decide)
      · next hc => subst hc; exact .named rfl (by decide)
      · next hcontrol => exact .numbered hcontrol
      · next hquote hback _ _ _ _ _ hcontrol =>
          exact .plain (by simpa using hquote) (by simpa using hback) (Nat.le_of_not_lt hcontrol)

section

variable {p : CodePoint} {written : Str}

theorem WrittenAs.exists_cons (h : WrittenAs p written) : ∃ q more, written = q :: more := by
  cases h <;> exact ⟨_, _, rfl⟩

theorem WrittenAs.stringFrom_eq (h : WrittenAs p written) (start fuel : Nat) (done : Str)
    (offset : Nat) (q : CodePoint) (rest : Str) :
    stringFrom start (fuel + 1) done ⟨offset, written ++ q :: rest⟩ =
      stringFrom start fuel (p :: done) ⟨offset + written.length, q :: rest⟩ := by
  cases h with
  | named hnamed hletter =>
      rw [stringFrom.eq_def]
      simp [hnamed, hletter, CodePoint.char?, Cursor.advance]
  | numbered hcontrol =>
      have hread := unicodeEscape_hexDigits hcontrol (offset + 2) q rest
      rw [Char.ofNat_toNat] at hread
      simp [stringFrom, Cursor.advance, hread, length_ofChars, length_hexDigits, bind, Except.bind]
  | plain hquote hback hshown =>
      have hplain : ¬ p.toNat ≤ 0x1f := by omega
      rw [List.singleton_append, stringFrom.eq_def]
      simp only
      split
      · next heq => cases heq
      · next heq => exact absurd (List.cons.inj heq).1 hquote
      · next heq => exact absurd (List.cons.inj heq).1 hback
      · next heq => exact absurd (List.cons.inj heq).1 hback
      · next heq => exact absurd (List.cons.inj heq).1 hback
      · next heq =>
          cases heq
          rw [if_neg hplain]
          rfl

end

theorem stringFrom_escaped (start fuel : Nat) (done s : Str) (offset : Nat) (rest : Str)
    (hfuel : s.length < fuel) :
    ∃ next, stringFrom start fuel done ⟨offset, s.flatMap escapePoint ++ .char '"' :: rest⟩ =
      .ok (done.reverse ++ s, ⟨next, rest⟩) := by
  induction s generalizing fuel done offset with
  | nil =>
      cases fuel with
      | zero => simp at hfuel
      | succ fuel => exact ⟨offset + 1, by simp [stringFrom, Cursor.advance]⟩
  | cons p s ih =>
      cases fuel with
      | zero => simp at hfuel
      | succ fuel =>
          have hmore : ∃ q more, s.flatMap escapePoint ++ .char '"' :: rest = q :: more := by
            cases s with
            | nil => exact ⟨.char '"', rest, rfl⟩
            | cons b s =>
                obtain ⟨q, more, hb⟩ := (writtenAs_escapePoint b).exists_cons
                exact ⟨q, more ++ (s.flatMap escapePoint ++ .char '"' :: rest), by simp [hb]⟩
          obtain ⟨q, more, hmore⟩ := hmore
          have hlength : s.length < fuel := by simpa using hfuel
          obtain ⟨next, hnext⟩ := ih fuel (p :: done) (offset + (escapePoint p).length) hlength
          refine ⟨next, ?_⟩
          rw [List.flatMap_cons, List.append_assoc, hmore, (writtenAs_escapePoint p).stringFrom_eq,
            ← hmore, hnext, List.reverse_cons, List.append_assoc, List.singleton_append]

theorem length_le_escaped (s : Str) : s.length ≤ (s.flatMap escapePoint).length := by
  induction s with
  | nil => simp
  | cons p s ih =>
      obtain ⟨q, more, hp⟩ := (writtenAs_escapePoint p).exists_cons
      simp only [List.flatMap_cons, hp, List.length_append, List.length_cons]
      omega

theorem readString_escaped (s : Str) (offset : Nat) (rest : Str) :
    ∃ next, readString ⟨offset, s.flatMap escapePoint ++ .char '"' :: rest⟩ =
      .ok (s, ⟨next, rest⟩) := by
  have hfuel : s.length < (s.flatMap escapePoint ++ .char '"' :: rest).length + 1 := by
    have hlength := length_le_escaped s
    simp only [List.length_append, List.length_cons]
    omega
  exact stringFrom_escaped (offset - 1) _ [] s offset rest hfuel

structure Spells (text : Str) (v : Value) : Prop where
  starts : ∃ c more, text = .char c :: more ∧ isSpace c = false ∧ c ≠ Char.ofNat 0xfeff
  reads : ∀ fuel offset rest, text.length ≤ fuel →
    ∃ next, readValue fuel ⟨offset, text ++ rest⟩ = .ok (v, ⟨next, rest⟩)

def stopMarks : List CodePoint :=
  [.char ',', .char ']', .char '}']

def Stops (rest : Str) : Prop :=
  ∀ p ∈ rest.head?, p ∈ stopMarks

structure Delimited (text : Str) (v : Value) : Prop where
  starts : ∃ c more, text = .char c :: more ∧ isSpace c = false ∧ c ≠ Char.ofNat 0xfeff
  reads : ∀ fuel offset rest, Stops rest → text.length ≤ fuel →
    ∃ next, readValue fuel ⟨offset, text ++ rest⟩ = .ok (v, ⟨next, rest⟩)

theorem Spells.delimited {text : Str} {v : Value} (h : Spells text v) :
    Delimited text v where
  starts := h.starts
  reads fuel offset rest _ hfuel := h.reads fuel offset rest hfuel

theorem stops_nil : Stops [] := by
  simp [Stops]

theorem stops_cons {p : CodePoint} (hp : p ∈ stopMarks) (rest : Str) : Stops (p :: rest) := by
  rintro q ⟨⟩
  exact hp

theorem skipSpace_of_not_space {c : Char} (hc : isSpace c = false) (offset : Nat)
    (rest : Str) : skipSpace ⟨offset, .char c :: rest⟩ = ⟨offset, .char c :: rest⟩ := by
  simp [skipSpace, hc, Cursor.advance]

theorem skipSpace_nil (offset : Nat) : skipSpace ⟨offset, []⟩ = ⟨offset, []⟩ := rfl

section

variable {text : Str} {v : Value}

theorem Delimited.skipSpace_eq (h : Delimited text v) (offset : Nat) (rest : Str) :
    skipSpace ⟨offset, text ++ rest⟩ = ⟨offset, text ++ rest⟩ := by
  obtain ⟨c, more, rfl, hc, -⟩ := h.starts
  exact skipSpace_of_not_space hc offset (more ++ rest)

theorem Delimited.length_pos (h : Delimited text v) : 0 < text.length := by
  obtain ⟨c, more, rfl, -⟩ := h.starts
  exact Nat.succ_pos _

theorem Delimited.read_eq (h : Delimited text v) : read text = .ok v := by
  have hskip := h.skipSpace_eq 0 []
  obtain ⟨next, hread⟩ := h.reads (2 * text.length + 2) 0 [] stops_nil (by omega)
  rw [List.append_nil] at hskip hread
  have hfirst : (text.head? == some (.char (Char.ofNat 0xfeff))) = false := by
    obtain ⟨c, more, rfl, -, hmark⟩ := h.starts
    simpa using hmark
  simp [read, hfirst, hskip, hread, skipSpace_nil, bind, Except.bind, pure, Except.pure]

theorem Delimited.starts_item (h : Delimited text v) :
    ∃ c more, text = .char c :: more ∧ isSpace c = false ∧ c ≠ ']' := by
  obtain ⟨c, more, rfl, hc, -⟩ := h.starts
  refine ⟨c, more, rfl, hc, ?_⟩
  rintro rfl
  obtain ⟨next, hread⟩ := h.reads (more.length + 1) 0 [] stops_nil (Nat.le_refl _)
  simp [readValue, readWord?, words, Str.of, readNumber, leadingMinus, leadingWhole, isDigit,
    fail] at hread

end

theorem spells_string (s : Str) : Spells (writeString s) (.str s) where
  starts := ⟨'"', _, rfl, rfl, by decide⟩
  reads := by
    intro fuel offset rest hfuel
    cases fuel with
    | zero => simp [writeString] at hfuel
    | succ fuel =>
        obtain ⟨next, hread⟩ := readString_escaped s (offset + 1) rest
        refine ⟨next, ?_⟩
        simp [writeString, readValue, Cursor.advance, hread, bind, Except.bind, pure, Except.pure]

theorem spells_null : Spells writeNull .null where
  starts := ⟨'n', _, rfl, rfl, by decide⟩
  reads := by
    have hlength : "null".length = 4 := rfl
    rintro (_ | fuel) offset rest hfuel
    · simp [writeNull] at hfuel
    · refine ⟨offset + 4, ?_⟩
      simp [writeNull, readValue, readWord?, words, Str.of, Cursor.advance, hlength]

theorem spells_bool (b : Bool) : Spells (writeBool b) (.bool b) where
  starts := by
    cases b
    · exact ⟨'f', _, rfl, rfl, by decide⟩
    · exact ⟨'t', _, rfl, rfl, by decide⟩
  reads := by
    have hfalse : "false".length = 5 := rfl
    have htrue : "true".length = 4 := rfl
    rintro (_ | fuel) offset rest hfuel
    · cases b <;> simp [writeBool] at hfuel
    · cases b
      · refine ⟨offset + 5, ?_⟩
        simp [writeBool, readValue, readWord?, words, Str.of, Cursor.advance, hfalse]
      · refine ⟨offset + 4, ?_⟩
        simp [writeBool, readValue, readWord?, words, Str.of, Cursor.advance, htrue]

theorem spells_emptyList : Spells [.char '[', .char ']'] (.list []) where
  starts := ⟨'[', _, rfl, rfl, by decide⟩
  reads := by
    rintro (_ | fuel) offset rest hfuel
    · cases hfuel
    · have hbracket : isSpace ']' = false := rfl
      refine ⟨offset + 1 + 1, ?_⟩
      simp [readValue, Cursor.advance, skipSpace_of_not_space hbracket, pure, Except.pure]

theorem spells_emptyDict : Spells [.char '{', .char '}'] (.dict []) where
  starts := ⟨'{', _, rfl, rfl, by decide⟩
  reads := by
    rintro (_ | fuel) offset rest hfuel
    · cases hfuel
    · have hbrace : isSpace '}' = false := rfl
      refine ⟨offset + 1 + 1, ?_⟩
      simp [readValue, Cursor.advance, skipSpace_of_not_space hbrace, pure, Except.pure]

structure DelimitedItems (text : Str) (vs : List Value) : Prop where
  starts : ∃ c more, text = .char c :: more ∧ isSpace c = false ∧ c ≠ ']'
  reads : ∀ fuel offset rest, text.length < fuel →
    ∃ next, readItems fuel ⟨offset, text ++ .char ']' :: rest⟩ = .ok (vs, ⟨next, rest⟩)

theorem DelimitedItems.skipSpace_eq {text : Str} {vs : List Value}
    (h : DelimitedItems text vs) (offset : Nat) (rest : Str) :
    skipSpace ⟨offset, text ++ rest⟩ = ⟨offset, text ++ rest⟩ := by
  obtain ⟨c, more, rfl, hc, -⟩ := h.starts
  exact skipSpace_of_not_space hc offset (more ++ rest)

theorem Delimited.item {text : Str} {v : Value} (h : Delimited text v) :
    DelimitedItems text [v] where
  starts := h.starts_item
  reads := by
    rintro (_ | fuel) offset rest hfuel
    · cases hfuel
    · obtain ⟨next, hread⟩ := h.reads fuel offset (.char ']' :: rest) (stops_cons (by decide) rest)
        (Nat.le_of_lt_succ hfuel)
      have hbracket : isSpace ']' = false := rfl
      refine ⟨next + 1, ?_⟩
      simp [readItems, hread, skipSpace_of_not_space hbracket, Cursor.advance, bind, Except.bind,
        pure, Except.pure]

theorem Delimited.items {text more : Str} {v : Value} {vs : List Value}
    (h : Delimited text v) (hmore : DelimitedItems more vs) :
    DelimitedItems (text ++ .char ',' :: more) (v :: vs) where
  starts := by
    obtain ⟨c, tail, rfl, hc⟩ := h.starts_item
    exact ⟨c, tail ++ .char ',' :: more, rfl, hc⟩
  reads := by
    rintro (_ | fuel) offset rest hfuel
    · cases hfuel
    · simp only [List.length_append, List.length_cons] at hfuel
      have hpos := h.length_pos
      obtain ⟨next, hread⟩ := h.reads fuel offset (.char ',' :: (more ++ .char ']' :: rest))
        (stops_cons (by decide) _) (by omega)
      obtain ⟨last, hrest⟩ := hmore.reads fuel (next + 1) rest (by omega)
      have hcomma : isSpace ',' = false := rfl
      refine ⟨last, ?_⟩
      simp [readItems, hread, skipSpace_of_not_space hcomma, Cursor.advance,
        hmore.skipSpace_eq, hrest, bind, Except.bind, pure, Except.pure]

theorem DelimitedItems.spells {text : Str} {vs : List Value} (h : DelimitedItems text vs) :
    Spells (.char '[' :: (text ++ [.char ']'])) (.list vs) where
  starts := ⟨'[', _, rfl, rfl, by decide⟩
  reads := by
    rintro (_ | fuel) offset rest hfuel
    · cases hfuel
    · simp only [List.length_append, List.length_cons, List.length_nil] at hfuel
      obtain ⟨next, hread⟩ := h.reads fuel (offset + 1) rest (by omega)
      have hskip := h.skipSpace_eq (offset + 1) (.char ']' :: rest)
      obtain ⟨c, tail, rfl, -, hc⟩ := h.starts
      simp only [List.cons_append] at hskip hread
      refine ⟨next, ?_⟩
      simp [readValue, Cursor.advance, hskip, hc, hread, bind, Except.bind, pure, Except.pure]

structure DelimitedPairs (text : Str) (pairs : List (Str × Value)) : Prop where
  starts : ∃ more, text = .char '"' :: more
  reads : ∀ fuel offset rest done, text.length < fuel → ((done ++ pairs).map Prod.fst).Nodup →
    ∃ next, readPairs fuel done ⟨offset, text ++ .char '}' :: rest⟩ =
      .ok (done ++ pairs, ⟨next, rest⟩)

theorem putText_of_nodup {done pairs : List (Str × Value)} {p : Str × Value}
    (h : ((done ++ p :: pairs).map Prod.fst).Nodup) : putText done p.1 p.2 = done ++ [p] := by
  have hnew : p.1 ∉ done.map Prod.fst := by
    rw [List.map_append, List.map_cons, List.nodup_append] at h
    intro hmem
    exact h.2.2 p.1 hmem p.1 (by simp) rfl
  exact Value.putText_of_not_mem hnew

theorem Delimited.pair {text : Str} {v : Value} (h : Delimited text v) (key : Str) :
    DelimitedPairs (writeString key ++ .char ':' :: text) [(key, v)] where
  starts := ⟨_, rfl⟩
  reads := by
    rintro (_ | fuel) offset rest done hfuel hkeys
    · cases hfuel
    · simp only [List.length_append, List.length_cons] at hfuel
      obtain ⟨colon, hkey⟩ :=
        readString_escaped key (offset + 1) (.char ':' :: (text ++ .char '}' :: rest))
      obtain ⟨brace, hvalue⟩ :=
        h.reads fuel (colon + 1) (.char '}' :: rest) (stops_cons (by decide) rest)
        (by omega)
      have hcolon : isSpace ':' = false := rfl
      have hbrace : isSpace '}' = false := rfl
      have hput := putText_of_nodup (p := (key, v)) hkeys
      refine ⟨brace + 1, ?_⟩
      simp [writeString, readPairs, Cursor.advance, hkey, skipSpace_of_not_space hcolon,
        h.skipSpace_eq, hvalue, skipSpace_of_not_space hbrace, hput, bind, Except.bind, pure,
        Except.pure]

theorem Delimited.pairs {text more : Str} {v : Value} {pairs : List (Str × Value)}
    (h : Delimited text v) (key : Str) (hmore : DelimitedPairs more pairs) :
    DelimitedPairs (writeString key ++ .char ':' :: (text ++ .char ',' :: more))
      ((key, v) :: pairs) where
  starts := ⟨_, rfl⟩
  reads := by
    rintro (_ | fuel) offset rest done hfuel hkeys
    · cases hfuel
    · simp only [List.length_append, List.length_cons] at hfuel
      have hput := putText_of_nodup (p := (key, v)) hkeys
      obtain ⟨colon, hkey⟩ := readString_escaped key (offset + 1)
        (.char ':' :: (text ++ .char ',' :: (more ++ .char '}' :: rest)))
      obtain ⟨comma, hvalue⟩ := h.reads fuel (colon + 1) (.char ',' :: (more ++ .char '}' :: rest))
        (stops_cons (by decide) _) (by omega)
      obtain ⟨last, hrest⟩ := hmore.reads fuel (comma + 1) rest (done ++ [(key, v)]) (by omega)
        (by simpa using hkeys)
      have hcolon : isSpace ':' = false := rfl
      have hcomma : isSpace ',' = false := rfl
      have hskip : skipSpace ⟨comma + 1, more ++ .char '}' :: rest⟩ =
          ⟨comma + 1, more ++ .char '}' :: rest⟩ := by
        obtain ⟨tail, rfl⟩ := hmore.starts
        exact skipSpace_of_not_space rfl _ _
      refine ⟨last, ?_⟩
      simp [writeString, readPairs, Cursor.advance, hkey, skipSpace_of_not_space hcolon,
        h.skipSpace_eq, hvalue, skipSpace_of_not_space hcomma, hskip, hput, hrest, bind,
        Except.bind]

theorem DelimitedPairs.spells {text : Str} {pairs : List (Str × Value)}
    (h : DelimitedPairs text pairs) (hkeys : (pairs.map Prod.fst).Nodup) :
    Spells (.char '{' :: (text ++ [.char '}'])) (.dict (textKeyed pairs)) where
  starts := ⟨'{', _, rfl, rfl, by decide⟩
  reads := by
    rintro (_ | fuel) offset rest hfuel
    · cases hfuel
    · simp only [List.length_append, List.length_cons, List.length_nil] at hfuel
      obtain ⟨next, hread⟩ := h.reads fuel (offset + 1) rest [] (by omega) hkeys
      obtain ⟨tail, rfl⟩ := h.starts
      have hquote : isSpace '"' = false := rfl
      simp only [List.cons_append, List.nil_append] at hread
      refine ⟨next, ?_⟩
      simp [readValue, Cursor.advance, skipSpace_of_not_space hquote, hread, textKeyed, bind,
        Except.bind, pure, Except.pure]

def ReadsBack (v : Value) : Prop :=
  ∃ text, writeValue v = .ok text ∧ Delimited text v

theorem readsBack_string (s : Str) : ReadsBack (.str s) :=
  ⟨writeString s, rfl, (spells_string s).delimited⟩

theorem exists_items {v : Value} {vs : List Value} (h : ∀ w ∈ v :: vs, ReadsBack w) :
    ∃ text, writeItems (v :: vs) = .ok text ∧ DelimitedItems text (v :: vs) := by
  induction vs generalizing v with
  | nil =>
      obtain ⟨text, htext, hv⟩ := h v (by simp)
      exact ⟨text, htext, hv.item⟩
  | cons w vs ih =>
      obtain ⟨text, htext, hv⟩ := h v (by simp)
      obtain ⟨more, hmore, hrest⟩ := ih fun u hu => h u (List.mem_cons_of_mem v hu)
      refine ⟨text ++ .char ',' :: more, ?_, hv.items hrest⟩
      simp [writeItems, htext, hmore, bind, Except.bind, pure, Except.pure]

theorem readsBack_list {vs : List Value} (h : ∀ v ∈ vs, ReadsBack v) :
    ReadsBack (.list vs) := by
  cases vs with
  | nil => exact ⟨_, rfl, spells_emptyList.delimited⟩
  | cons v vs =>
      obtain ⟨text, htext, hitems⟩ := exists_items h
      refine ⟨_, ?_, hitems.spells.delimited⟩
      simp [writeValue, htext, bind, Except.bind, pure, Except.pure]

theorem exists_pairs {p : Str × Value} {pairs : List (Str × Value)}
    (h : ∀ q ∈ p :: pairs, ReadsBack q.2) :
    ∃ text, writePairs (textKeyed (p :: pairs)) = .ok text ∧ DelimitedPairs text (p :: pairs) := by
  induction pairs generalizing p with
  | nil =>
      obtain ⟨text, htext, hv⟩ := h p (by simp)
      refine ⟨_, ?_, hv.pair p.1⟩
      simp [textKeyed, writePairs, writeKey, htext, bind, Except.bind, pure, Except.pure]
  | cons q pairs ih =>
      obtain ⟨text, htext, hv⟩ := h p (by simp)
      obtain ⟨more, hmore, hrest⟩ := ih fun r hr => h r (List.mem_cons_of_mem p hr)
      refine ⟨_, ?_, hv.pairs p.1 hrest⟩
      simp only [textKeyed, List.map_cons] at hmore
      simp [textKeyed, writePairs, writeKey, htext, hmore, bind, Except.bind, pure, Except.pure]

theorem readsBack_dict {pairs : List (Str × Value)} (hkeys : (pairs.map Prod.fst).Nodup)
    (h : ∀ p ∈ pairs, ReadsBack p.2) : ReadsBack (.dict (textKeyed pairs)) := by
  cases pairs with
  | nil => exact ⟨_, rfl, spells_emptyDict.delimited⟩
  | cons p pairs =>
      obtain ⟨text, htext, hpairs⟩ := exists_pairs h
      refine ⟨_, ?_, (hpairs.spells hkeys).delimited⟩
      simp [writeValue, htext, bind, Except.bind, pure, Except.pure]

theorem ReadsBack.pair {v : Value} (h : ReadsBack v) (key : Str) :
    ReadsBack (.dict [(.str key, v)]) := by
  have hdict : ReadsBack (.dict (textKeyed [(key, v)])) :=
    readsBack_dict (by simp) (by simpa using h)
  exact hdict

theorem ReadsBack.read_write {v : Value} (h : ReadsBack v) :
    ∃ text, write v = .ok text ∧ read text = .ok v := by
  obtain ⟨text, htext, hdelimited⟩ := h
  exact ⟨text, htext, hdelimited.read_eq⟩

end QueryShell.Json
