namespace QueryShell.Query

inductive Source where
  | argument (index : Nat)
  | argumentOrNull (index : Nat)
  | null
  /-- The variadic arguments: one stands alone, others form an array. -/
  | rest
  /-- Like `rest`; the field is left out when there are none. -/
  | restIfAny
  | restArray
  deriving DecidableEq, Repr

structure Field where
  key : String
  source : Source
  deriving DecidableEq, Repr

inductive Body where
  | fields (fields : List Field)
  | bindings
  | page
  deriving DecidableEq, Repr

structure Helper where
  name : String
  function : String
  required : List String
  optional : List String
  variadic : Bool
  body : Body
  deriving DecidableEq, Repr

def Helper.parameters (h : Helper) : List String :=
  h.required ++ h.optional

end QueryShell.Query
