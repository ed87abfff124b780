import Mathlib.Data.List.TakeWhile
import QueryShell.Proofs.Computation
import QueryShell.Statement.Node

namespace QueryShell.Statement

theorem takeWhile_take_append {p : Char → Bool} {z : List Char}
    (hz : ∀ c ∈ z.head?, p c = false) (n : Nat) (a : List Char) :
    ((a ++ z).take n).takeWhile p = (a.take n).takeWhile p := by
  induction a generalizing n with
  | nil =>
      cases z with
      | nil => rfl
      | cons c z =>
          have hc : p c = false := hz c rfl
          cases n with
          | zero => rfl
          | succ n => simp [hc]
  | cons c a ih =>
      cases n with
      | zero => rfl
      | succ n => simp only [List.cons_append, List.take_succ_cons, List.takeWhile_cons, ih]

def BreaksOff (z : List Char) : Prop :=
  ∀ c ∈ z.head?, c = '\\'

theorem BreaksOff.head {z : List Char} (h : BreaksOff z) {p : Char → Bool}
    (hp : p '\\' = false) : ∀ c ∈ z.head?, p c = false := by
  intro c hc
  rw [h c hc, hp]

theorem breaksOff_nil : BreaksOff [] := by
  simp [BreaksOff]

theorem breaksOff_backslash (z : List Char) : BreaksOff ('\\' :: z) := by
  simp [BreaksOff]

def CutsLine (tail : List Char) : Prop :=
  tail = [] ∨ tail = ['\\', 'n']

theorem CutsLine.breaksOff {tail : List Char} (h : CutsLine tail) : BreaksOff tail := by
  rcases h with rfl | rfl
  · exact breaksOff_nil
  · exact breaksOff_backslash ['n']

section Append

variable {z : List Char} (hz : BreaksOff z)
include hz

theorem hexEscape_append (digits : Nat) (truncated : String) (a : List Char) :
    hexEscape digits truncated (a ++ z) = hexEscape digits truncated a := by
  have hstop : (Text.hexValue? '\\').isSome = false := by decide
  have hfound := takeWhile_take_append (p := fun c => (Text.hexValue? c).isSome)
    (hz.head hstop) digits a
  simp only [hexEscape, hfound]

theorem octalEscape_append (a : List Char) : octalEscape (a ++ z) = octalEscape a := by
  have hfound := takeWhile_take_append (p := isOctal) (hz.head (by decide)) 3 a
  simp only [octalEscape, hfound]

end Append

theorem hexEscape_count {digits : Nat} {truncated : String} {a : List Char} {chars : Str}
    {count : Nat} (h : hexEscape digits truncated a = .reads chars count) :
    count ≤ a.length + 1 := by
  have hfound := (List.takeWhile_prefix (fun c => (Text.hexValue? c).isSome)
    (l := a.take digits)).length_le
  rw [List.length_take] at hfound
  simp only [hexEscape] at h
  split at h
  · cases h
  · next hlen =>
      split at h
      · cases h
        omega
      · cases h

theorem octalEscape_count {a : List Char} {chars : Str} {count : Nat}
    (h : octalEscape a = .reads chars count) : count ≤ a.length := by
  have hfound := (List.takeWhile_prefix isOctal (l := a.take 3)).length_le
  rw [List.length_take] at hfound
  cases h
  omega

theorem append_of_not_mem {c : Char} {w after a y : List Char} (hw : c ∉ w)
    (h : w ++ after = a ++ c :: y) : ∃ m, a = w ++ m := by
  rcases List.append_eq_append_iff.1 h with ⟨m, rfl, -⟩ | ⟨m, rfl, hm⟩
  · exact ⟨m, rfl⟩
  · cases m with
    | nil => exact ⟨[], by simp⟩
    | cons d m =>
        obtain rfl : c = d := (List.cons.inj hm).1
        exact absurd (by simp) hw

theorem inside_quotes (q : Char) (inside : List Char) :
    (q :: (inside ++ [q])).tail.dropLast = inside := by
  simp

variable [CharacterNames]

theorem nameEscape_of_named {name after : List Char} {c : Char} (hname : '}' ∉ name)
    (hne : name ≠ []) (hc : CharacterNames.named? name = some c) :
    nameEscape ('{' :: (name ++ '}' :: after)) = .reads [.char c] (3 + name.length) := by
  have hnot : ∀ d ∈ name, (d != '}') = true := by
    intro d hd
    simpa using fun heq : d = '}' => hname (heq ▸ hd)
  have htake : (name ++ '}' :: after).takeWhile (· != '}') = name := by
    rw [List.takeWhile_append_of_pos hnot]
    simp
  have hlen : (name.length == (name ++ '}' :: after).length) = false := by
    simp
  have hempty : name.isEmpty = false := by
    simpa [List.isEmpty_iff] using hne
  simp only [nameEscape, htake, hlen, hempty, Bool.false_eq_true, if_false, hc]

theorem named_of_nameEscape {cs : List Char} {chars : Str} {count : Nat}
    (h : nameEscape cs = .reads chars count) :
    ∃ name after c, cs = '{' :: (name ++ '}' :: after) ∧ '}' ∉ name ∧ name ≠ [] ∧
      CharacterNames.named? name = some c ∧ chars = [.char c] ∧ count = 3 + name.length := by
  unfold nameEscape at h
  split at h
  · next cs =>
      have hcut : cs.takeWhile (· != '}') ++ cs.dropWhile (· != '}') = cs :=
        List.takeWhile_append_dropWhile
      have hname : '}' ∉ cs.takeWhile (· != '}') := by
        intro hmem
        exact absurd (List.mem_takeWhile_imp hmem) (by decide)
      have hhead := List.head?_dropWhile_not (· != '}') cs
      generalize cs.takeWhile (· != '}') = name at h hcut hname
      generalize cs.dropWhile (· != '}') = rest at hcut hhead
      subst hcut
      dsimp only at h
      split at h
      · cases h
      · next hlen =>
          split at h
          · cases h
          · next hempty =>
              split at h
              · next c hc =>
                  cases h
                  cases rest with
                  | nil => exact absurd (by simp) hlen
                  | cons d after =>
                      obtain rfl : d = '}' := by simpa using hhead
                      refine ⟨name, after, c, rfl, hname, ?_, hc, rfl, rfl⟩
                      simpa [List.isEmpty_iff] using hempty
              · cases h
  · cases h

theorem nameEscape_append {a y : List Char} {chars : Str} {count : Nat}
    (h : nameEscape (a ++ '\\' :: y) = .reads chars count) :
    count ≤ a.length + 1 ∧ ∀ z, nameEscape (a ++ z) = .reads chars count := by
  obtain ⟨name, after, c, hcs, hname, hne, hc, rfl, rfl⟩ := named_of_nameEscape h
  have hplain : '\\' ∉ '{' :: (name ++ ['}']) := by
    simp only [List.mem_cons, List.mem_append, List.not_mem_nil, or_false, not_or]
    refine ⟨by decide, fun hmem => ?_, by decide⟩
    have hback := CharacterNames.plain name c hc _ hmem
    exact absurd hback (by decide)
  have hsplit : '{' :: (name ++ ['}']) ++ after = a ++ '\\' :: y := by
    rw [hcs]
    simp
  obtain ⟨m, rfl⟩ := append_of_not_mem hplain hsplit
  refine ⟨?_, fun z => ?_⟩
  · simp only [List.length_append, List.length_cons, List.length_nil]
    omega
  · simp only [List.cons_append, List.append_assoc, List.nil_append]
    exact nameEscape_of_named hname hne hc

theorem escapeAt_append {a y : List Char} {chars : Str} {count : Nat} (ha : a ≠ [])
    (h : escapeAt (a ++ '\\' :: y) = .reads chars count) :
    count ≤ a.length ∧ ∀ z, BreaksOff z → escapeAt (a ++ z) = .reads chars count := by
  cases a with
  | nil => exact absurd rfl ha
  | cons c a =>
      have hy := breaksOff_backslash y
      simp only [List.cons_append, escapeAt] at h ⊢
      split at h
      · next d hd =>
          cases h
          exact ⟨by simp, fun z _ => rfl⟩
      · split at h
        · next digits truncated hhex =>
            rw [hexEscape_append hy] at h
            refine ⟨hexEscape_count h, fun z hz => ?_⟩
            rw [hexEscape_append hz, h]
        · split at h
          · next hc =>
              obtain ⟨hcount, hread⟩ := nameEscape_append h
              exact ⟨hcount, fun z _ => by rw [if_pos hc, hread z]⟩
          · next hc =>
              split at h
              · next hoctal =>
                  rw [← List.cons_append, octalEscape_append hy] at h
                  refine ⟨octalEscape_count h, fun z hz => ?_⟩
                  rw [if_neg hc, if_pos hoctal, ← List.cons_append, octalEscape_append hz, h]
              · next hoctal =>
                  cases h
                  exact ⟨by simp, fun z _ => by rw [if_neg hc, if_neg hoctal]⟩

inductive Legible : List Char → Prop where
  | nil : Legible []
  | plain {c : Char} {cs : List Char} : c ≠ '\\' → Legible cs → Legible (c :: cs)
  | escape {cs : List Char} {chars : Str} {count : Nat} : escapeAt cs = .reads chars count →
      Legible (cs.drop count) → Legible ('\\' :: cs)

theorem Legible.unescapeFrom_ok {cs : List Char} (h : Legible cs) (position : Nat) :
    ∃ out, unescapeFrom position cs = .ok out := by
  induction h generalizing position with
  | nil => exact ⟨[], by rw [unescapeFrom]⟩
  | @plain c cs hc _ ih =>
      obtain ⟨out, hout⟩ := ih (position + spelledLength [c])
      refine ⟨.char c :: out, ?_⟩
      rw [unescapeFrom, if_neg hc, hout]
      rfl
  | @escape cs chars count hread _ ih =>
      obtain ⟨out, hout⟩ := ih (position + spelledLength ('\\' :: cs.take count))
      refine ⟨chars ++ out, ?_⟩
      rw [unescapeFrom, if_pos rfl, hread]
      simp only [hout]
      rfl

theorem legible_of_unescapeFrom {position : Nat} {cs : List Char} {out : Str}
    (h : unescapeFrom position cs = .ok out) : Legible cs := by
  induction position, cs using unescapeFrom.induct generalizing out with
  | case1 => exact .nil
  | case2 position cs chars count hread next =>
      rename_i ih
      rw [unescapeFrom, if_pos rfl, hread] at h
      obtain ⟨more, hmore, -⟩ := bind_ok.1 h
      exact .escape hread (ih hmore)
  | case3 position cs count reason hread =>
      rw [unescapeFrom, if_pos rfl, hread] at h
      cases h
  | case4 position c cs hc ih =>
      rw [unescapeFrom, if_neg hc] at h
      obtain ⟨more, hmore, -⟩ := bind_ok.1 h
      exact .plain hc (ih hmore)

theorem CutsLine.legible {tail : List Char} (h : CutsLine tail) : Legible tail := by
  rcases h with rfl | rfl
  · exact .nil
  · have hread : escapeAt ['n'] = .reads [.char '\n'] 1 := rfl
    exact .escape hread .nil

theorem CutsLine.legible_backslash {tail : List Char} (h : CutsLine tail) :
    Legible ('\\' :: tail) := by
  rcases h with rfl | rfl
  · have hread : escapeAt [] = .reads [.char '\\'] 0 := rfl
    exact .escape hread .nil
  · have hread : escapeAt ['\\', 'n'] = .reads [.char '\\'] 1 := rfl
    exact .escape hread (.plain (by decide) .nil)

theorem Legible.cut {a b tail : List Char} (h : Legible (a ++ '\\' :: 'n' :: b))
    (htail : CutsLine tail) : Legible (a ++ tail) := by
  generalize htext : a ++ '\\' :: 'n' :: b = text at h
  induction h generalizing a with
  | nil => simp at htext
  | @plain c cs hc _ ih =>
      cases a with
      | nil => exact absurd (List.cons.inj htext).1.symm hc
      | cons d a =>
          obtain ⟨rfl, hcs⟩ := List.cons.inj htext
          exact .plain hc (ih hcs)
  | @escape cs chars count hread _ ih =>
      cases a with
      | nil => exact htail.legible
      | cons d a =>
          obtain ⟨rfl, hcs⟩ := List.cons.inj htext
          change a ++ '\\' :: 'n' :: b = cs at hcs
          by_cases ha : a = []
          · rw [ha]
            exact htail.legible_backslash
          · rw [← hcs] at hread
            obtain ⟨hcount, hread⟩ := escapeAt_append ha hread
            refine .escape (hread tail htail.breaksOff) ?_
            change Legible ((a ++ tail).drop count)
            rw [List.drop_append_of_le_length hcount]
            refine ih ?_
            rw [← hcs, List.drop_append_of_le_length hcount]

theorem unescape_ok_iff {body : List Char} : (∃ out, unescape body = .ok out) ↔
    '\x00' ∉ body ∧ Legible (body.flatMap escapeLineBreak) := by
  unfold unescape
  split
  · next hnul =>
      constructor
      · rintro ⟨out, h⟩; cases h
      · rintro ⟨h, -⟩; exact absurd (by simpa using hnul) h
  · next hnul =>
      constructor
      · rintro ⟨out, h⟩; exact ⟨by simpa using hnul, legible_of_unescapeFrom h⟩
      · rintro ⟨-, h⟩; exact h.unescapeFrom_ok 0

theorem stringValue_ok_iff {token : List Char} : (∃ s, stringValue token = .ok s) ↔
    ∃ out, unescape token.tail.dropLast = .ok out := by
  unfold stringValue unquote
  cases unescape token.tail.dropLast with
  | ok out => exact ⟨fun _ => ⟨out, rfl⟩, fun _ => ⟨_, rfl⟩⟩
  | error fault =>
      constructor
      · rintro ⟨s, h⟩; cases h
      · rintro ⟨out, h⟩; cases h

theorem stringValue_cut {q : Char} {inside more tail : List Char}
    (h : ∃ s, stringValue (q :: (inside ++ '\n' :: more ++ [q])) = .ok s)
    (htail : tail = [] ∨ tail = ['\n']) :
    ∃ s, stringValue (q :: (inside ++ tail ++ [q])) = .ok s := by
  rw [stringValue_ok_iff, inside_quotes, unescape_ok_iff] at h ⊢
  obtain ⟨hnul, hlegible⟩ := h
  rw [List.flatMap_append, List.flatMap_cons] at hlegible
  rw [List.flatMap_append]
  refine ⟨?_, hlegible.cut ?_⟩
  · rcases htail with rfl | rfl <;> simp_all
  · rcases htail with rfl | rfl
    · exact .inl rfl
    · exact .inr rfl

end QueryShell.Statement
