import QueryShell.Query.Catalogue
import QueryShell.Value.Merging

namespace QueryShell.Query

/-- How a number of arguments fails to fit the parameters. Too many is told before too few. -/
def Helper.mismatch? (h : Helper) (given : Nat) : Option Mismatch :=
  let least := h.required.length
  let most := h.parameters.length
  if !h.variadic && most < given then some (.tooMany least most given)
  else if given < least then some (.missing (h.required.drop given))
  else none

def bundled : List Value → Value
  | [v] => v
  | vs => .list vs

def Source.value? (rest given : List Value) : Source → Option Value
  | .argument index => given[index]?
  | .argumentOrNull index => some (Value.ofOption given[index]?)
  | .null => some .null
  | .rest => some (bundled rest)
  | .restIfAny => if rest.isEmpty then none else some (bundled rest)
  | .restArray => some (.list rest)

def build (fields : List Field) (rest given : List Value) : Value :=
  .expr (fields.filterMap fun f => (f.source.value? rest given).map fun v => (.str f.key, v))

def bind (bindings body : Value) : Except Fault Value :=
  match bindings with
  | .dict pairs =>
      .ok (.expr [(.str "let", .list (pairs.map fun p => .expr [p])), (.str "in", body)])
  | other => .error (.noAttribute other.typeName "items")

def Helper.call (h : Helper) (args : List Value) : Except Fault Value :=
  match h.mismatch? args.length with
  | some how => .error (.mismatch h.function how)
  | none =>
      let given := args.take h.parameters.length
      let rest := args.drop h.parameters.length
      match h.body, given with
      | .fields fields, _ => .ok (build fields rest given)
      | .bindings, [bindings, body] => bind bindings body
      | .page, [page] => .ok (.expr [(.str "paginate", page)])
      | .page, [page, options] => return .expr (← Value.merge [(.str "paginate", page)] options)
      | _, _ => .error (.mismatch h.function (.missing []))

end QueryShell.Query
