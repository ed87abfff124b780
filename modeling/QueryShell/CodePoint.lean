namespace QueryShell

/-- A code point of a text. Half of a surrogate pair is no character, but a text may hold one. -/
inductive CodePoint where
  | char (c : Char)
  | surrogate (index : Fin 0x800)
  deriving DecidableEq, Repr

namespace CodePoint

def toNat : CodePoint → Nat
  | char c => c.toNat
  | surrogate index => 0xd800 + index

def ofNat (n : Nat) : CodePoint :=
  if h : 0xd800 ≤ n ∧ n < 0xe000 then .surrogate ⟨n - 0xd800, by omega⟩ else .char (Char.ofNat n)

theorem not_surrogate (c : Char) : c.toNat < 0xd800 ∨ 0xe000 ≤ c.toNat := by
  have hvalid : c.toNat.isValidChar := c.valid
  rcases hvalid with hlow | ⟨hhigh, -⟩
  · exact .inl hlow
  · exact .inr hhigh

theorem toNat_lt (p : CodePoint) : p.toNat < 0x110000 := by
  cases p with
  | char c =>
      have hvalid : c.toNat.isValidChar := c.valid
      simp only [toNat]
      rcases hvalid with hlow | ⟨-, hhigh⟩ <;> omega
  | surrogate index => simp only [toNat]; omega

theorem ofNat_toNat (p : CodePoint) : ofNat p.toNat = p := by
  cases p with
  | char c =>
      have hnot : ¬(0xd800 ≤ c.toNat ∧ c.toNat < 0xe000) := by
        have := not_surrogate c
        omega
      rw [toNat, ofNat, dif_neg hnot, Char.ofNat_toNat]
  | surrogate index =>
      have hhalf : 0xd800 ≤ 0xd800 + index.val ∧ 0xd800 + index.val < 0xe000 := by omega
      rw [toNat, ofNat, dif_pos hhalf]
      simp

theorem toNat_ofNat {n : Nat} (h : n < 0x110000) : (ofNat n).toNat = n := by
  unfold ofNat
  split
  · simp only [toNat]
    omega
  · next hno =>
      have hvalid : n.isValidChar := by
        unfold Nat.isValidChar
        omega
      rw [toNat, Char.ofNat, dif_pos hvalid]
      rfl

theorem toNat_inj {p q : CodePoint} : p.toNat = q.toNat ↔ p = q :=
  ⟨fun h => by rw [← ofNat_toNat p, h, ofNat_toNat], fun h => by rw [h]⟩

def char? : CodePoint → Option Char
  | char c => some c
  | surrogate _ => none

def replacement : Char := Char.ofNat 0xfffd

/-- The character that is shown. -/
def shown (p : CodePoint) : Char :=
  p.char?.getD replacement

end CodePoint

def isHighSurrogate (n : Nat) : Bool := 0xd800 ≤ n && n ≤ 0xdbff

def isLowSurrogate (n : Nat) : Bool := 0xdc00 ≤ n && n ≤ 0xdfff

def joinSurrogates (high low : Nat) : Nat :=
  0x10000 + (high - 0xd800) * 0x400 + (low - 0xdc00)

abbrev Str := List CodePoint

namespace Str

def ofChars (cs : List Char) : Str :=
  cs.map .char

def of (s : String) : Str :=
  ofChars s.toList

instance : Coe String Str := ⟨of⟩

def chars? (s : Str) : Option (List Char) :=
  s.mapM CodePoint.char?

def text? (s : Str) : Option String :=
  s.chars?.map String.ofList

/-- The characters before the first code point that is none. -/
def leading : Str → List Char
  | .char c :: s => c :: leading s
  | _ => []

def shown (s : Str) : List Char :=
  s.map CodePoint.shown

/-- A text whose characters are rewritten, run by run: half of a surrogate pair ends a run. -/
def mapRuns (f : List Char → List Char) (s : Str) : Str :=
  go [] s
where
  go (run : List Char) : Str → Str
    | [] => ofChars (f run.reverse)
    | .char c :: s => go (c :: run) s
    | .surrogate index :: s => ofChars (f run.reverse) ++ .surrogate index :: go [] s

theorem mapRuns_ofChars (f : List Char → List Char) (cs : List Char) :
    mapRuns f (ofChars cs) = ofChars (f cs) := by
  have hgo : ∀ run, mapRuns.go f run (ofChars cs) = ofChars (f (run.reverse ++ cs)) := by
    induction cs with
    | nil =>
        intro run
        rw [List.append_nil]
        rfl
    | cons c cs ih =>
        intro run
        have hstep : mapRuns.go f run (ofChars (c :: cs)) = mapRuns.go f (c :: run) (ofChars cs) :=
          rfl
        rw [hstep, ih, List.reverse_cons, List.append_assoc]
        rfl
  exact hgo []

theorem leading_append (cs : List Char) (s : Str) :
    leading (ofChars cs ++ s) = cs ++ leading s := by
  induction cs with
  | nil => rfl
  | cons c cs ih => exact congrArg (c :: ·) ih

@[simp] theorem ofChars_inj {a b : List Char} : ofChars a = ofChars b ↔ a = b :=
  List.map_inj_right fun _ _ => CodePoint.char.inj

@[simp] theorem of_inj {s t : String} : of s = of t ↔ s = t :=
  ofChars_inj.trans String.toList_inj

@[simp] theorem leading_nil : leading [] = [] := rfl

@[simp] theorem leading_char (c : Char) (s : Str) : leading (.char c :: s) = c :: leading s := rfl

@[simp] theorem ofChars_nil : ofChars [] = [] := rfl

@[simp] theorem ofChars_cons (c : Char) (cs : List Char) :
    ofChars (c :: cs) = .char c :: ofChars cs := rfl

@[simp] theorem ofChars_append (a b : List Char) : ofChars (a ++ b) = ofChars a ++ ofChars b :=
  List.map_append

@[simp] theorem of_append (s t : String) : of (s ++ t) = of s ++ of t := by
  simp [of]

@[simp] theorem of_ofList (cs : List Char) : of (String.ofList cs) = ofChars cs := by
  simp [of]

def IsWhole (s : Str) : Prop :=
  ∀ p ∈ s, ∃ c, p = .char c

theorem isWhole_ofChars (cs : List Char) : IsWhole (ofChars cs) := by
  rintro p hp
  obtain ⟨c, -, rfl⟩ := List.mem_map.1 hp
  exact ⟨c, rfl⟩

theorem isWhole_iff {s : Str} : s.IsWhole ↔ ∃ cs, s = ofChars cs := by
  constructor
  · intro h
    induction s with
    | nil => exact ⟨[], rfl⟩
    | cons p s ih =>
        obtain ⟨c, rfl⟩ := h p (by simp)
        obtain ⟨cs, rfl⟩ := ih fun q hq => h q (List.mem_cons_of_mem _ hq)
        exact ⟨c :: cs, rfl⟩
  · rintro ⟨cs, rfl⟩
    exact isWhole_ofChars cs

@[simp] theorem isWhole_append {s t : Str} : IsWhole (s ++ t) ↔ s.IsWhole ∧ t.IsWhole :=
  List.forall_mem_append

@[simp] theorem isWhole_char {c : Char} {s : Str} : IsWhole (.char c :: s) ↔ s.IsWhole := by
  simp [IsWhole]

theorem chars?_ofChars (cs : List Char) : chars? (ofChars cs) = some cs := by
  induction cs with
  | nil => rfl
  | cons c cs ih =>
      rw [chars?] at ih
      simp [chars?, CodePoint.char?, ih]

theorem chars?_eq_some_iff {s : Str} {cs : List Char} : s.chars? = some cs ↔ s = ofChars cs := by
  constructor
  · intro h
    induction s generalizing cs with
    | nil => cases h; rfl
    | cons p s ih =>
        cases p with
        | surrogate index => cases h
        | char c =>
            simp only [chars?, List.mapM_cons, CodePoint.char?, Option.pure_def,
              Option.bind_eq_bind, Option.bind_some, Option.bind_eq_some_iff] at h
            obtain ⟨more, hmore, heq⟩ := h
            cases heq
            rw [ih hmore, ofChars_cons]
  · rintro rfl
    exact chars?_ofChars cs

theorem text?_of (s : String) : text? (of s) = some s := by
  simp [text?, of, chars?_ofChars]

theorem text?_eq_some_iff {s : Str} {t : String} : s.text? = some t ↔ s = of t := by
  constructor
  · intro h
    obtain ⟨cs, hcs, rfl⟩ := Option.map_eq_some_iff.1 h
    rw [chars?_eq_some_iff.1 hcs, of_ofList]
  · rintro rfl
    exact text?_of t

end Str

end QueryShell
