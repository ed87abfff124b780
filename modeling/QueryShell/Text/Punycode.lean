namespace QueryShell.Text.Punycode

def base : Nat := 36

def leastThreshold : Nat := 1

def mostThreshold : Nat := 26

def digitOf (n : Nat) : Char :=
  if n < 26 then Char.ofNat (97 + n) else Char.ofNat (22 + n)

def places : (fuel : Nat) → Nat → Nat × Nat
  | 0, delta => (0, delta)
  | fuel + 1, delta =>
      if (base - leastThreshold) * mostThreshold / 2 < delta then
        let (k, last) := places fuel (delta / (base - leastThreshold))
        (k + base, last)
      else (0, delta)

def adapt (delta count : Nat) (isFirst : Bool) : Nat :=
  let damped := if isFirst then delta / 700 else delta / 2
  let (k, last) := places delta (damped + damped / count)
  k + (base - leastThreshold + 1) * last / (last + 38)

def threshold (k bias : Nat) : Nat :=
  if k ≤ bias + leastThreshold then leastThreshold
  else if bias + mostThreshold ≤ k then mostThreshold
  else k - bias

def number (bias : Nat) : (fuel k : Nat) → Nat → List Char
  | 0, _, q => [digitOf q]
  | fuel + 1, k, q =>
      let t := threshold k bias
      if q < t then [digitOf q]
      else
        digitOf (t + (q - t) % (base - t)) :: number bias fuel (k + base) ((q - t) / (base - t))

/-- What is written so far: the steps since the last character that was put in, the bias, how many
characters are handled, and the digits. -/
structure State where
  delta : Nat
  bias : Nat
  handled : Nat
  digits : List Char

def State.pass (ascii point : Nat) (s : State) (c : Char) : State :=
  if c.toNat < point then { s with delta := s.delta + 1 }
  else if c.toNat = point then
    { delta := 0
      bias := adapt s.delta (s.handled + 1) (s.handled == ascii)
      handled := s.handled + 1
      digits := s.digits ++ number s.bias (s.delta + 1) base s.delta }
  else s

def insertAll (cs : List Char) (ascii : Nat) (s : State) (known : Nat) : List Nat → State
  | [] => s
  | point :: points =>
      let moved := { s with delta := s.delta + (point - known) * (s.handled + 1) }
      let passed := cs.foldl (State.pass ascii point) moved
      insertAll cs ascii { passed with delta := passed.delta + 1 } (point + 1) points

def points (cs : List Char) : List Nat :=
  let sorted := ((cs.map Char.toNat).filter (128 ≤ ·)).mergeSort fun a b => decide (a ≤ b)
  sorted.eraseReps

def encode (cs : List Char) : List Char :=
  let ascii := cs.filter fun c => c.toNat < 128
  let start : State := ⟨0, 72, ascii.length, []⟩
  let ended := insertAll cs ascii.length start 128 (points cs)
  (if ascii.isEmpty then [] else ascii ++ ['-']) ++ ended.digits

def digitValue? (c : Char) : Option Nat :=
  if 'a' ≤ c && c ≤ 'z' then some (c.toNat - 97)
  else if c.isDigit then some (c.toNat - 22)
  else none

def readNumber? (bias : Nat) : (k weight sum : Nat) → List Char → Option (Nat × List Char)
  | _, _, _, [] => none
  | k, weight, sum, c :: cs =>
      match digitValue? c with
      | none => none
      | some digit =>
          let t := threshold k bias
          if digit < t then some (sum + digit * weight, cs)
          else readNumber? bias (k + base) (weight * (base - t)) (sum + digit * weight) cs

theorem length_lt_of_readNumber? {bias k weight sum n : Nat} {cs rest : List Char}
    (h : readNumber? bias k weight sum cs = some (n, rest)) : rest.length < cs.length := by
  induction cs generalizing k weight sum with
  | nil => simp [readNumber?] at h
  | cons c cs ih =>
      simp only [readNumber?] at h
      split at h
      · simp at h
      · split at h
        · obtain ⟨_, rfl⟩ := Prod.mk.inj (Option.some.inj h)
          simp
        · exact Nat.lt_succ_of_lt (ih h)

/-- Puts the characters that are left to read into a text. `place` is where the next one goes if it
is the least one yet to come, and `point` is that one. -/
def insertRead (known : List Char) (point place bias : Nat) (isFirst : Bool) :
    List Char → Option (List Char)
  | [] => some known
  | c :: cs =>
      match h : readNumber? bias base 1 0 (c :: cs) with
      | none => none
      | some (delta, rest) =>
          let size := known.length + 1
          let point := point + (place + delta) / size
          let place := (place + delta) % size
          if Nat.isValidChar point then
            insertRead (known.take place ++ Char.ofNat point :: known.drop place) point (place + 1)
              (adapt delta size isFirst) false rest
          else none
termination_by cs => cs.length
decreasing_by exact length_lt_of_readNumber? h

def decode? (cs : List Char) : Option (List Char) :=
  let digits := (cs.reverse.takeWhile (· != '-')).reverse
  insertRead (cs.take (cs.length - digits.length - 1)) 128 0 72 true digits

end QueryShell.Text.Punycode
