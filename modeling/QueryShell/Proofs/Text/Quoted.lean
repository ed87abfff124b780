import Mathlib.Algebra.Group.Nat.Defs
import QueryShell.Text.Quoted

namespace QueryShell.Text

theorem hexDigit_inj : ∀ m < 16, ∀ n < 16, hexDigit m = hexDigit n → m = n := by
  decide

theorem hexDigits_inj {width m n : Nat} (hm : m < 16 ^ width) (hn : n < 16 ^ width)
    (h : hexDigits width m = hexDigits width n) : m = n := by
  induction width generalizing m n with
  | zero => omega
  | succ width ih =>
      obtain ⟨hhigh, hlow⟩ := List.append_inj' h rfl
      have hlast := hexDigit_inj _ (Nat.mod_lt m (by decide)) _ (Nat.mod_lt n (by decide))
        (List.singleton_inj.1 hlow)
      have hrest := ih (by omega) (by omega) hhigh
      omega

def namedEscapes (quote : Char) : List (Char × Char) :=
  [(quote, quote), ('\\', '\\'), ('\t', 't'), ('\n', 'n'), ('\r', 'r')]

inductive Escapes (quote : Char) : CodePoint → List Char → Prop where
  | plain {c : Char} : c ≠ quote → c ≠ '\\' → Escapes quote (.char c) [c]
  | named {c e : Char} : (c, e) ∈ namedEscapes quote → Escapes quote (.char c) ['\\', e]
  | numbered {p : CodePoint} {letter : Char} {width : Nat} : (letter, width) ∈ numberedEscapes →
      p.toNat < 16 ^ width → Escapes quote p ('\\' :: letter :: hexDigits width p.toNat)

theorem named_of_namedEscape {quote c : Char} {cs : List Char}
    (h : namedEscape? quote c = some cs) :
    ∃ e, cs = ['\\', e] ∧ (c, e) ∈ namedEscapes quote := by
  unfold namedEscape? at h
  split at h
  · next hc =>
      cases h
      have hself : c = quote ∨ c = '\\' := by simpa using hc
      exact ⟨c, rfl, by rcases hself with rfl | rfl <;> simp [namedEscapes]⟩
  · repeat' split at h
    all_goals cases h
    all_goals next hc => exact ⟨_, rfl, by simp [namedEscapes, hc]⟩

theorem not_special_of_namedEscape {quote c : Char} (h : namedEscape? quote c = none) :
    c ≠ quote ∧ c ≠ '\\' := by
  unfold namedEscape? at h
  split at h
  · cases h
  · next hc => simpa using hc

theorem escapes_numberedEscape (quote : Char) (p : CodePoint) :
    Escapes quote p (numberedEscape p.toNat) := by
  have hmax : p.toNat < 16 ^ 8 := by
    have := p.toNat_lt
    omega
  unfold numberedEscape
  split
  · exact .numbered (by decide) (by omega)
  · split
    · exact .numbered (by decide) (by omega)
    · exact .numbered (by decide) hmax

theorem escapes_getD {quote c : Char} {other : List Char}
    (h : c ≠ quote → c ≠ '\\' → Escapes quote (.char c) other) :
    Escapes quote (.char c) ((namedEscape? quote c).getD other) := by
  cases hnamed : namedEscape? quote c with
  | some cs =>
      obtain ⟨e, rfl, he⟩ := named_of_namedEscape hnamed
      exact .named he
  | none =>
      obtain ⟨hquote, hback⟩ := not_special_of_namedEscape hnamed
      exact h hquote hback

theorem escapes_escapePoint (quote : Char) (p : CodePoint) :
    Escapes quote p (escapePoint quote p) := by
  cases p with
  | char c =>
      refine escapes_getD fun hquote hback => ?_
      split
      · exact .plain hquote hback
      · exact escapes_numberedEscape quote (.char c)
  | surrogate index => exact escapes_numberedEscape quote (.surrogate index)

theorem toNat_ofByte (b : UInt8) : (Char.ofNat b.toNat).toNat = b.toNat := by
  have hvalid : b.toNat.isValidChar := .inl (by have := b.toNat_lt; omega)
  rw [Char.ofNat, dif_pos hvalid]
  rfl

theorem escapes_escapeByte (quote : Char) (b : UInt8) :
    Escapes quote (.char (Char.ofNat b.toNat)) (escapeByte quote b) := by
  refine escapes_getD fun hquote hback => ?_
  split
  · exact .plain hquote hback
  · have h := escapes_numberedEscape quote (.char (Char.ofNat b.toNat))
    rwa [CodePoint.toNat, toNat_ofByte] at h

theorem quoteFor_cases (single double : Bool) :
    quoteFor single double = '\'' ∨ quoteFor single double = '"' := by
  unfold quoteFor
  split
  · exact .inr rfl
  · exact .inl rfl

section

variable {quote c d : Char} {p q : CodePoint} {cs ds rest rest' : List Char}
  (hquote : quote = '\'' ∨ quote = '"')

include hquote

theorem Escapes.head_ne (h : Escapes quote p cs) : ∃ e more, cs = e :: more ∧ e ≠ quote := by
  have hback : '\\' ≠ quote := by rcases hquote with rfl | rfl <;> decide
  cases h with
  | plain hc _ => exact ⟨_, [], rfl, hc⟩
  | named _ => exact ⟨'\\', _, rfl, hback⟩
  | numbered _ _ => exact ⟨'\\', _, rfl, hback⟩

theorem named_inj {e : Char} (hc : (c, e) ∈ namedEscapes quote)
    (hd : (d, e) ∈ namedEscapes quote) : c = d := by
  have hall : ∀ p ∈ namedEscapes quote, ∀ q ∈ namedEscapes quote, p.2 = q.2 → p.1 = q.1 := by
    rcases hquote with rfl | rfl <;> decide
  exact hall _ hc _ hd rfl

theorem named_not_number {e : Char} {width : Nat} (hc : (c, e) ∈ namedEscapes quote) :
    (e, width) ∉ numberedEscapes := by
  have hall : ∀ p ∈ namedEscapes quote, p.2 ∉ numberedEscapes.map Prod.fst := by
    rcases hquote with rfl | rfl <;> decide
  exact fun hwidth => hall _ hc (List.mem_map_of_mem hwidth)

theorem Escapes.inj (hc : Escapes quote p cs) (hd : Escapes quote q ds)
    (h : cs ++ rest = ds ++ rest') : p = q ∧ rest = rest' := by
  cases hc with
  | plain _ hback =>
      cases hd with
      | plain => exact (List.cons.inj h).imp_left (congrArg CodePoint.char)
      | named => exact absurd (List.cons.inj h).1 hback
      | numbered => exact absurd (List.cons.inj h).1 hback
  | named hc =>
      cases hd with
      | plain _ hback => exact absurd (List.cons.inj h).1.symm hback
      | named hd =>
          simp only [List.cons_append, List.cons.injEq, true_and] at h
          obtain ⟨rfl, h⟩ := h
          exact ⟨congrArg CodePoint.char (named_inj hquote hc hd), h⟩
      | numbered hwidth _ =>
          simp only [List.cons_append, List.cons.injEq, true_and] at h
          obtain ⟨rfl, h⟩ := h
          exact absurd hwidth (named_not_number hquote hc)
  | numbered hwidth hc =>
      cases hd with
      | plain _ hback => exact absurd (List.cons.inj h).1.symm hback
      | named hd =>
          simp only [List.cons_append, List.cons.injEq, true_and] at h
          obtain ⟨rfl, h⟩ := h
          exact absurd hwidth (named_not_number hquote hd)
      | numbered hwidth' hd =>
          simp only [List.cons_append, List.cons.injEq, true_and] at h
          obtain ⟨rfl, h⟩ := h
          have hall : ∀ p ∈ numberedEscapes, ∀ q ∈ numberedEscapes, p.1 = q.1 → p.2 = q.2 := by
            decide
          obtain rfl := hall _ hwidth _ hwidth' rfl
          obtain ⟨hdigits, hrest⟩ := List.append_inj h (by simp [length_hexDigits])
          exact ⟨CodePoint.toNat_inj.1 (hexDigits_inj hc hd hdigits), hrest⟩

theorem closed_inj {α : Type} {f : α → List Char} {g : α → CodePoint}
    (hf : ∀ a, Escapes quote (g a) (f a)) (hg : ∀ a b, g a = g b → a = b) {as bs : List α}
    (h : as.flatMap f ++ quote :: rest = bs.flatMap f ++ quote :: rest') :
    as = bs ∧ rest = rest' := by
  induction as generalizing bs with
  | nil =>
      cases bs with
      | nil => exact ⟨rfl, (List.cons.inj h).2⟩
      | cons b bs =>
          obtain ⟨e, more, heq, hne⟩ := (hf b).head_ne hquote
          rw [List.flatMap_cons, heq] at h
          exact absurd (List.cons.inj h).1.symm hne
  | cons a as ih =>
      cases bs with
      | nil =>
          obtain ⟨e, more, heq, hne⟩ := (hf a).head_ne hquote
          rw [List.flatMap_cons, heq] at h
          exact absurd (List.cons.inj h).1 hne
      | cons b bs =>
          rw [List.flatMap_cons, List.flatMap_cons, List.append_assoc, List.append_assoc] at h
          obtain ⟨hab, hmore⟩ := (hf a).inj hquote (hf b) h
          obtain ⟨rfl, hrest⟩ := ih hmore
          exact ⟨by rw [hg a b hab], hrest⟩

end

section

variable {rest rest' : List Char}

theorem quoteChars_inj {s t : Str} (h : quoteChars s ++ rest = quoteChars t ++ rest') :
    s = t ∧ rest = rest' := by
  simp only [quoteChars, List.cons_append, List.cons.injEq, List.append_assoc] at h
  obtain ⟨hquote, h⟩ := h
  rw [← hquote] at h
  exact closed_inj (quoteFor_cases _ _) (escapes_escapePoint _) (fun _ _ => id) h

theorem quotedBytes_inj {as bs : List UInt8}
    (h : (quotedBytes as).toList ++ rest = (quotedBytes bs).toList ++ rest') :
    as = bs ∧ rest = rest' := by
  have hbyte : ∀ a b : UInt8,
      CodePoint.char (Char.ofNat a.toNat) = .char (Char.ofNat b.toNat) → a = b := by
    intro a b hab
    rw [← UInt8.toNat_inj, ← toNat_ofByte a, CodePoint.char.inj hab, toNat_ofByte]
  simp only [quotedBytes, String.toList_ofList, List.cons_append, List.cons.injEq,
    List.append_assoc, true_and] at h
  obtain ⟨hquote, h⟩ := h
  rw [← hquote] at h
  exact closed_inj (quoteFor_cases _ _) (escapes_escapeByte _) hbyte h

end

end QueryShell.Text
