import QueryShell.Proofs.Json.Document
import QueryShell.Proofs.Value.Tagging

namespace QueryShell.Value

open Json (Document)

inductive WellTagged : Value → Prop where
  | null : WellTagged .null
  | bool (b : Bool) : WellTagged (.bool b)
  | int (n : Int) : WellTagged (.int n)
  | float (x : Float) : WellTagged (.float x)
  | str (s : Str) : WellTagged (.str s)
  | list {items : List Value} : (∀ v ∈ items, WellTagged v) → WellTagged (.list items)
  | plain {pairs : List (Value × Value)} : ¬ LooksTagged pairs → (∀ p ∈ pairs, WellTagged p.2) →
      WellTagged (.dict pairs)
  | wrapped {pairs : List (Value × Value)} : (∀ p ∈ pairs, WellTagged p.2) →
      WellTagged (.dict [(.str "@obj", .dict pairs)])
  | time (v : Value) : WellTagged (.dict [(.str "@ts", v)])
  | date (v : Value) : WellTagged (.dict [(.str "@date", v)])
  | set {v : Value} : WellTagged v → WellTagged (.dict [(.str "@set", v)])
  | query {v : Value} : WellTagged v → WellTagged (.dict [(.str "@query", v)])
  | bytes {cs : List Char} {data : List UInt8} : (∀ c ∈ cs, c.toNat < 0x80) →
      Text.Base64.decode cs = .ok data →
      WellTagged (.dict [(.str "@bytes", .str (Str.ofChars cs))])
  | ref {pairs : List (Value × Value)} {id : Value} : (.str "id", id) ∈ pairs →
      (∀ part, (.str "collection", part) ∈ pairs → WellTagged part) →
      (∀ part, (.str "database", part) ∈ pairs → WellTagged part) →
      WellTagged (.dict [(.str "@ref", .dict pairs)])
  /-- The name of a reference, by any value but a dictionary. -/
  | bareRef {v : Value} : (∀ pairs, v ≠ .dict pairs) → WellTagged (.dict [(.str "@ref", v)])

section

variable {leaf : Value → Prop} {v : Value} {pairs : List (Value × Value)}

end

section

variable {v : Value}

end

section

variable {leaf : Value → Prop} {v : Value}

end

end QueryShell.Value
