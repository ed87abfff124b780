import QueryShell.Proofs.Json.Document
import QueryShell.Proofs.Json.Numerals

namespace QueryShell.Json

open Decimal (withSign)

def otherStarts : List Char :=
  ['"', '{', '[', 'n', 't', 'f', 'N', 'I', '-', ' ', '\t', '\n', '\r']

theorem ne_of_isDigit {d : Char} (hd : isDigit d = true) : ∀ c ∈ otherStarts, d ≠ c := by
  have hothers : ∀ c ∈ otherStarts, isDigit c = false := by
    simp [otherStarts, isDigit]
  rintro c hc rfl
  rw [hothers d hc] at hd
  cases hd

theorem readWord?_number {d : Char} (hd : isDigit d = true) (negative : Bool) (offset : Nat)
    (more : Str) :
    readWord? ⟨offset, Str.ofChars (withSign negative [d]) ++ more⟩ = none := by
  have hne := ne_of_isDigit hd
  simp only [otherStarts, List.forall_mem_cons] at hne
  obtain ⟨-, -, -, hn, ht, hf, hN, hI, hminus, -⟩ := hne
  cases negative with
  | false =>
      simp [readWord?, words, Str.of, withSign, hn.symm, ht.symm, hf.symm, hN.symm, hI.symm,
        hminus.symm]
  | true => simp [readWord?, words, Str.of, withSign, hI.symm]

theorem readValue_of_no_word {c : Char} (hquote : c ≠ '"') (hbrace : c ≠ '{')
    (hbracket : c ≠ '[') {offset : Nat} {more : Str}
    (hword : readWord? ⟨offset, .char c :: more⟩ = none) (fuel : Nat) :
    readValue (fuel + 1) ⟨offset, .char c :: more⟩ = readNumber ⟨offset, .char c :: more⟩ := by
  unfold readValue
  dsimp only
  split
  · next heq => exact absurd (CodePoint.char.inj (List.cons.inj heq).1) hquote
  · next heq => exact absurd (CodePoint.char.inj (List.cons.inj heq).1) hbrace
  · next heq => exact absurd (CodePoint.char.inj (List.cons.inj heq).1) hbracket
  · rw [hword]

theorem Numeral.delimited {text : List Char} {v : Value} (h : Numeral text v) :
    Delimited (.ofChars text) v := by
  obtain ⟨negative, d, more, rfl, hd⟩ := h.starts
  have hne := ne_of_isDigit hd
  have hspace : isSpace d = false := by
    simp only [otherStarts, List.forall_mem_cons] at hne
    simp [isSpace, hne]
  have hmark : d ≠ Char.ofNat 0xfeff := by
    rintro rfl
    cases hd
  refine ⟨?_, ?_⟩
  · cases negative with
    | false => exact ⟨d, _, rfl, hspace, hmark⟩
    | true => exact ⟨'-', _, rfl, rfl, by decide⟩
  · rintro (_ | fuel) offset rest hrest hfuel
    · cases negative <;> simp [withSign] at hfuel
    · obtain ⟨next, hread⟩ := h.reads offset rest hrest
      have hword := readWord?_number hd negative offset (Str.ofChars more ++ rest)
      refine ⟨next, ?_⟩
      cases negative with
      | false =>
          rw [← hread]
          exact readValue_of_no_word (hne _ (by simp [otherStarts])) (hne _ (by simp [otherStarts]))
            (hne _ (by simp [otherStarts])) hword fuel
      | true =>
          rw [← hread]
          exact readValue_of_no_word (by decide) (by decide) (by decide) hword fuel

theorem Document.readsBack {v : Value} (h : Document Finite v) (hshort : Document Short v) :
    ReadsBack v := by
  induction h with
  | null => exact ⟨_, rfl, spells_null.delimited⟩
  | bool b => exact ⟨_, rfl, (spells_bool b).delimited⟩
  | @int n _ =>
      cases hshort with
      | int hn =>
          have hless : n.natAbs < Decimal.tenTo Decimal.digitLimit := hn
          refine ⟨.ofChars (Decimal.integerChars n), ?_, (numeral_integer hn).delimited⟩
          rw [writeValue, writeInteger, if_pos hless]
  | @float x hx =>
      have hfinite : Decimal.isFinite x = true := hx
      refine ⟨.ofChars (Decimal.shellStyle.chars x), ?_, (numeral_float hx).delimited⟩
      rw [writeValue, writeFloat, if_pos hfinite]
  | str _ => exact readsBack_string _
  | list _ ih =>
      exact readsBack_list fun v hv => ih v hv (document_list_iff.1 hshort v hv)
  | dict hkeys _ _ ih =>
      exact readsBack_dict hkeys fun p hp => ih p hp ((document_dict_iff.1 hshort).2.2 p hp)

theorem Document.read_write {v : Value} (h : Document Finite v) (hshort : Document Short v) :
    ∃ text, write v = .ok text ∧ read text = .ok v :=
  (h.readsBack hshort).read_write

end QueryShell.Json
