import QueryShell.Value.Inspect

namespace QueryShell.Value

inductive Number where
  | whole (n : Int)
  | binary (x : Float)

def number? : Value → Option Number
  | .bool b => some (.whole (if b then 1 else 0))
  | .int n => some (.whole n)
  | .float x => some (.binary x)
  | _ => none

def Number.equal : Number → Number → Bool
  | .whole m, .whole n => m == n
  | .binary x, .binary y => x == y
  | .whole n, .binary x | .binary x, .whole n => Decimal.toInt? x == some n

def Number.matches (n : Number) (w : Value) : Bool :=
  match w.number? with
  | some m => n.equal m
  | none => false

def shownAlike (v w : Value) : Bool :=
  match inspect v, inspect w with
  | .ok a, .ok b => a == b
  | _, _ => false

mutual

def hashAlike : Value → Value → Bool
  | .tuple vs, .tuple ws => allHashAlike vs ws
  | .expr ps, .expr qs => shownAlike (.expr ps) (.expr qs)
  | .ref i c d, .ref i' c' d' => hashAlike i i' && hashAlike c c' && hashAlike d d'
  | .time v, .time w | .date v, .date w | .set v, .set w | .query v, .query w => hashAlike v w
  | _, _ => true
termination_by structural v => v

def allHashAlike : List Value → List Value → Bool
  | v :: vs, w :: ws => hashAlike v w && allHashAlike vs ws
  | _, _ => true
termination_by structural vs => vs

end

mutual

def equal : Value → Value → Bool
  | .null, .null => true
  | .bool b, w => Number.matches (.whole (if b then 1 else 0)) w
  | .int n, w => Number.matches (.whole n) w
  | .float x, w => Number.matches (.binary x) w
  | .str s, .str t => s == t
  | .list vs, .list ws => allEqual vs ws
  | .tuple vs, .tuple ws => allEqual vs ws
  | .dict ps, .dict qs => ps.length == qs.length && eachFound ps qs
  | .bytes a, .bytes b => a == b
  | .expr ps, .expr qs => ps.length == qs.length && eachFound ps qs
  | .ref i c d, .ref i' c' d' => equal i i' && equal c c' && equal d d'
  | .time v, .time w => equal v w
  | .date v, .date w => equal v w
  | .set v, .set w => equal v w
  | .query v, .query w => equal v w
  | .helper h, .helper g => h.name == g.name
  | _, _ => false
termination_by structural v => v

def allEqual : List Value → List Value → Bool
  | [], [] => true
  | v :: vs, w :: ws => equal v w && allEqual vs ws
  | _, _ => false
termination_by structural vs => vs

def eachFound : List (Value × Value) → List (Value × Value) → Bool
  | [], _ => true
  | (k, v) :: ps, qs =>
      qs.any (fun q => equal k q.1 && hashAlike k q.1 && equal v q.2) && eachFound ps qs
termination_by structural ps => ps

end

def sameKey (k l : Value) : Bool :=
  equal k l && hashAlike k l

end QueryShell.Value
