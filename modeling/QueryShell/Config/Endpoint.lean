import QueryShell.Config.Setting
import QueryShell.ShellError
import QueryShell.Value.Dictionary
import QueryShell.Yaml.Shown

namespace QueryShell.Config

open Yaml (Contents Data Document)

inductive Refusal where
  | failed (error : ShellError)
  | fault (fault : Fault)

def refuse (message : Str) : Except Refusal α :=
  .error (.failed (.configuration message))

def typeFault (message : String) : Fault :=
  .other "TypeError" message

def indexFault (message : String) : Fault :=
  .other "IndexError" message

def fieldOf (document : Contents) (name : String) : Except Fault Data :=
  match document with
  | .dict entries => .ok ((Yaml.under? entries (.text name)).getD (.scalar .null))
  | other => .error (.noAttribute other.kind "get")

/-- What counts as given stands for itself, and anything else for no entries. -/
def orNone (contents : Contents) : Contents :=
  if contents.isGiven then contents else .dict []

def isInside (part : List α) [BEq α] : List α → Bool
  | [] => part.isEmpty
  | c :: cs => part.isPrefixOf (c :: cs) || isInside part cs

def keyOf (d : Document) (name : Data) : Except Fault Yaml.Scalar :=
  match d.contents name with
  | .scalar s => .ok s
  | other => .error (.unhashable other.kind)

def position? : Yaml.Scalar → Option Int
  | .int n => some n
  | .bool b => some (if b then 1 else 0)
  | _ => none

def isInText (s : Str) (name : Contents) : Except Fault Bool :=
  match name with
  | .scalar (.text part) => .ok (isInside part s)
  | other =>
      .error (typeFault ("'in <string>' requires string as left operand, not " ++ other.kind))

def isInBytes (data : List UInt8) (name : Contents) : Except Fault Bool :=
  match name with
  | .scalar (.bytes part) => .ok (isInside part data)
  | .scalar s =>
      match position? s with
      | some n =>
          if 0 ≤ n && n < 256 then .ok (data.contains (UInt8.ofNat n.toNat))
          else .error (.other "ValueError" "byte must be in range(0, 256)")
      | none => .error (.bytesExpected s.kind)
  | other => .error (.bytesExpected other.kind)

/-- Whether a name is found among endpoints, which may be anything that can be searched. A set may
be looked up in a set, and is not found. -/
def isAmong (d : Document) (endpoints : Contents) (name : Data) : Except Fault Bool :=
  match endpoints with
  | .dict entries => return (Yaml.under? entries (← keyOf d name)).isSome
  | .set elements =>
      match d.contents name with
      | .set _ => .ok false
      | _ => (keyOf d name).map fun key => elements.any fun e => e.equal key
  | .list items => items.anyM fun item => d.equal item name
  | .pairs _ => .ok false
  | .scalar (.text s) => isInText s (d.contents name)
  | .scalar (.bytes data) => isInBytes data (d.contents name)
  | .scalar s => .error (typeFault ("argument of type '" ++ s.kind ++ "' is not iterable"))

def positionBound : Nat := 9223372036854775808

def itemAt (outside : String) (items : List α) (n : Int) : Except Fault α :=
  if positionBound ≤ n || n < -positionBound then
    .error (indexFault "cannot fit 'int' into an index-sized integer")
  else
    let index := if n < 0 then n + items.length else n
    match if index < 0 then none else items[index.toNat]? with
    | some item => .ok item
    | none => .error (indexFault outside)

def notPosition (what kind : String) : Fault :=
  typeFault (what ++ " indices must be integers or slices, not " ++ kind)

def entryUnder (d : Document) (endpoints : Contents) (name : Data) : Except Fault Data := do
  let kind := (d.contents name).kind
  let position :=
    match d.contents name with
    | .scalar s => position? s
    | _ => none
  match endpoints, position with
  | .dict entries, _ => return (Yaml.under? entries (← keyOf d name)).getD (.scalar .null)
  | .list items, some n => itemAt "list index out of range" items n
  | .list _, none | .pairs _, _ => .error (notPosition "list" kind)
  | .scalar (.bytes data), some n =>
      return .scalar (.int (← itemAt "index out of range" data n).toNat)
  | .scalar (.bytes _), none => .error (notPosition "byte" kind)
  | .scalar (.text _), _ =>
      .error (typeFault ("string indices must be integers, not '" ++ kind ++ "'"))
  | other, _ => .error (.notSubscriptable other.kind)

inductive Part where
  | whole (data : Data)
  | pair (first second : Data)

structure Entry where
  settings : Settings
  hasOtherKeys : Bool

def partsOf? : Contents → Option (List Part)
  | .list items => some (items.map .whole)
  | .pairs items => some (items.map fun p => .pair p.1 p.2)
  | .dict entries => some (entries.map fun e => .whole (.scalar e.1))
  | .set elements => some (elements.map fun e => .whole (.scalar e))
  | .scalar (.text s) => some (s.map fun p => .whole (.scalar (.text [p])))
  | .scalar (.bytes data) => some (data.map fun b => .whole (.scalar (.int b.toNat)))
  | .scalar _ => none

def Part.parts? (d : Document) : Part → Option (List Part)
  | .whole data => partsOf? (d.contents data)
  | .pair first second => some [.whole first, .whole second]

def Part.setting (d : Document) : Part → Setting
  | .whole data => .ofContents (d.contents data)
  | .pair .. => .other true

def Entry.put (d : Document) (entry : Entry) (key value : Part) : Except Fault Entry :=
  match key with
  | .whole data => do
      match ← keyOf d data with
      | .text name =>
          match name.text? with
          | some name =>
              return { entry with settings := Value.putText entry.settings name (value.setting d) }
          | none => return entry
      | _ => return { entry with hasOtherKeys := true }
  | .pair first second => do
      discard (keyOf d first)
      discard (keyOf d second)
      return { entry with hasOtherKeys := true }

def putParts (d : Document) (entry : Entry) (index : Nat) : List Part → Except Fault Entry
  | [] => .ok entry
  | part :: parts => do
      match part.parts? d with
      | none => throw (.entryNotSequence index)
      | some [key, value] => putParts d (← entry.put d key value) (index + 1) parts
      | some several => throw (.entryNotPair index several.length)

def entryOf (d : Document) (contents : Contents) : Except Fault Entry :=
  match contents with
  | .dict entries =>
      entries.foldlM (fun entry e => entry.put d (.whole (.scalar e.1)) (.whole e.2)) ⟨[], false⟩
  | other =>
      match partsOf? other with
      | some parts => putParts d ⟨[], false⟩ 0 parts
      | none => .error (.notIterable other.kind)

def undefinedEndpoint (name : Str) (path : String) : Str :=
  "Endpoint '" ++ name ++ "' is not defined in " ++ path ++ "."

def orFault (result : Except Fault α) : Except Refusal α :=
  result.mapError .fault

def endpointEntry (path : String) (d : Document) (endpoint : String) : Except Refusal Entry := do
  let document := orNone (d.contents d.root)
  let endpoints := orNone (d.contents (← orFault (fieldOf document "endpoints")))
  let name ←
    if endpoint == "" then orFault (fieldOf document "default")
    else pure (.scalar (.text endpoint))
  if !(d.contents name).isGiven then return ⟨[], false⟩
  if ← orFault (isAmong d endpoints name) then
    let entry ← orFault (entryUnder d endpoints name)
    orFault (entryOf d (orNone (d.contents entry)))
  else refuse (undefinedEndpoint (← orFault (d.stated name)) path)

end QueryShell.Config
