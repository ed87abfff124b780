import QueryShell.Yaml.Graph
import QueryShell.Yaml.Lexer

namespace QueryShell.Yaml

def coreHandle : String := "tag:yaml.org,2002:"

def coreTags : List (String × Tag) :=
  [("null", .null), ("bool", .bool), ("int", .int), ("float", .float), ("timestamp", .timestamp),
    ("binary", .binary), ("str", .text), ("seq", .sequence), ("map", .mapping), ("set", .set),
    ("omap", .pairs), ("pairs", .pairs), ("merge", .merge), ("value", .default)]

def Tag.named (uri : String) : Tag :=
  ((coreTags.find? fun p => coreHandle ++ p.1 == uri).map (·.2)).getD .unknown

structure Reading where
  tokens : List Token
  stop : Option Defect
  graph : Graph
  anchors : List (String × Place)
  handles : List (String × String)

abbrev Read := StateT Reading (Except Defect)

namespace Read

def peek : Read (Option Token) := do
  let r ← get
  match r.tokens, r.stop with
  | token :: _, _ => return some token
  | [], none => return none
  | [], some defect => throw defect

def skip : Read Unit :=
  modify fun r => { r with tokens := r.tokens.tail }

def fail : Read α :=
  throw .malformed

def expect (token : Token) : Read Unit := do
  if (← peek) == some token then skip else fail

def accept (token : Token) : Read Bool := do
  if (← peek) == some token then
    skip
    return true
  else return false

def isBefore (stops : List Token) : Read Bool := do
  match ← peek with
  | some token => return stops.contains token
  | none => return true

def takeAnchor : Read (Option String) := do
  match ← peek with
  | some (.anchor name) => skip; return some name
  | _ => return none

def takeTag : Read (Option (Option String × String)) := do
  match ← peek with
  | some (.tag handle suffix) => skip; return some (handle, suffix)
  | _ => return none

def tagName : Option (Option String × String) → Read (Option String)
  | none => return none
  | some (none, suffix) => return some suffix
  | some (some handle, suffix) => do
      match (← get).handles.lookup handle with
      | some uri => return some (uri ++ suffix)
      | none => fail

def properties : Read (Option String × Option String) := do
  match ← takeAnchor with
  | some anchor => return (some anchor, ← tagName (← takeTag))
  | none =>
      let tag ← takeTag
      let anchor ← if tag.isSome then takeAnchor else pure none
      return (anchor, ← tagName tag)

def aliasOf (name : String) : Read Place := do
  match (← get).anchors.lookup name with
  | some place => return place
  | none => fail

def add (anchor : Option String) (node : Node) : Read Place := do
  let r ← get
  let place := r.graph.size
  match anchor with
  | none => set { r with graph := r.graph.push node }
  | some name =>
      if (r.anchors.lookup name).isSome then fail
      else
        set { r with graph := r.graph.push node, anchors := (name, place) :: r.anchors }
  return place

def addEmpty : Read Place :=
  add none .empty

def complete (place : Place) (node : Node) : Read Place := do
  modify fun r => { r with graph := r.graph.setIfInBounds place node }
  return place

def nonSpecific : String := "!"

def collectionTag (written : Option String) (usual : Tag) : Tag :=
  match written with
  | none => usual
  | some uri => if uri == nonSpecific then usual else .named uri

def scalarTag (written : Option String) (plain : Bool) (text : Str) : Tag :=
  match written with
  | none => if plain then plainTag text.shown else .text
  | some uri => if uri == nonSpecific then plainTag text.shown else .named uri

/-- Reads the items of a sequence that is there already, so that they may refer to it. -/
def sequence (anchor written : Option String) (items : Read (List Place)) : Read Place := do
  let tag := collectionTag written .sequence
  let place ← add anchor (.sequence tag [])
  complete place (.sequence tag (← items))

def mapping (anchor written : Option String) (pairs : Read (List (Place × Place))) :
    Read Place := do
  let tag := collectionTag written .mapping
  let place ← add anchor (.mapping tag [])
  complete place (.mapping tag (← pairs))

def scalar (anchor written : Option String) (plain : Bool) (text : Str) : Read Place :=
  add anchor (.scalar (scalarTag written plain text) text)

mutual

/-- A node. Block collections count if `block`; so does a block sequence that is indented no more
than its key if `flush`. -/
def node (block flush : Bool) : (fuel : Nat) → Read Place
  | 0 => fail
  | fuel + 1 => do
      match ← peek with
      | some (.aliasOf name) => skip; aliasOf name
      | _ =>
          let (anchor, tag) ← properties
          match ← peek with
          | some (.scalar plain text) => skip; scalar anchor tag plain text
          | some .flowSequence => skip; sequence anchor tag (flowItems true fuel)
          | some .flowMapping => skip; mapping anchor tag (flowPairs true fuel)
          | next =>
              if flush && next == some .item then sequence anchor tag (flushItems fuel)
              else if block && next == some .blockSequence then
                skip
                sequence anchor tag (blockItems fuel)
              else if block && next == some .blockMapping then
                skip
                mapping anchor tag (blockPairs fuel)
              else if anchor.isSome || tag.isSome then scalar anchor tag true []
              else fail

def nodeUnless (stops : List Token) (block flush : Bool) : (fuel : Nat) → Read Place
  | 0 => fail
  | fuel + 1 => do
      if ← isBefore stops then addEmpty else node block flush fuel

def blockItems : (fuel : Nat) → Read (List Place)
  | 0 => fail
  | fuel + 1 => do
      if ← accept .item then
        let first ← nodeUnless [.item, .blockEnd] true false fuel
        return first :: (← blockItems fuel)
      else
        expect .blockEnd
        return []

def flushItems : (fuel : Nat) → Read (List Place)
  | 0 => fail
  | fuel + 1 => do
      if ← accept .item then
        let first ← nodeUnless [.item, .key, .value, .blockEnd] true false fuel
        return first :: (← flushItems fuel)
      else return []

def blockPairs : (fuel : Nat) → Read (List (Place × Place))
  | 0 => fail
  | fuel + 1 => do
      let stops := [.key, .value, .blockEnd]
      if ← accept .key then
        let key ← nodeUnless stops true true fuel
        let value ← if ← accept .value then nodeUnless stops true true fuel else addEmpty
        return (key, value) :: (← blockPairs fuel)
      else
        expect .blockEnd
        return []

def flowPair (close : Token) : (fuel : Nat) → Read (Place × Place)
  | 0 => fail
  | fuel + 1 => do
      let key ← nodeUnless [.value, .comma, close] false false fuel
      let value ←
        if ← accept .value then nodeUnless [.comma, close] false false fuel else addEmpty
      return (key, value)

def flowItems (isFirst : Bool) : (fuel : Nat) → Read (List Place)
  | 0 => fail
  | fuel + 1 => do
      if ← accept .flowSequenceEnd then return []
      else
        if !isFirst then expect .comma
        if ← accept .flowSequenceEnd then return []
        else if ← accept .key then
          let pair ← mapping none none (List.singleton <$> flowPair .flowSequenceEnd fuel)
          return pair :: (← flowItems false fuel)
        else
          let first ← node false false fuel
          return first :: (← flowItems false fuel)

def flowPairs (isFirst : Bool) : (fuel : Nat) → Read (List (Place × Place))
  | 0 => fail
  | fuel + 1 => do
      if ← accept .flowMappingEnd then return []
      else
        if !isFirst then expect .comma
        if ← accept .flowMappingEnd then return []
        else if ← accept .key then
          let pair ← flowPair .flowMappingEnd fuel
          return pair :: (← flowPairs false fuel)
        else
          let key ← node false false fuel
          let value ← addEmpty
          return (key, value) :: (← flowPairs false fuel)

end

def standardHandles : List (String × String) :=
  [("!", "!"), ("!!", coreHandle)]

def directives (hasVersion : Bool) (handles : List (String × String)) :
    (fuel : Nat) → Read (List (String × String))
  | 0 => fail
  | fuel + 1 => do
      match ← peek with
      | some (.directive (.version major)) =>
          if hasVersion || major != 1 then fail
          else
            skip
            directives true handles fuel
      | some (.directive (.handle handle uri)) =>
          if (handles.lookup handle).isSome then fail
          else
            skip
            directives hasVersion ((handle, uri) :: handles) fuel
      | some (.directive .other) => skip; directives hasVersion handles fuel
      | _ => return handles ++ standardHandles

def skipDocumentEnds : (fuel : Nat) → Read Unit
  | 0 => fail
  | fuel + 1 => do
      if ← accept .documentEnd then skipDocumentEnds fuel

def marked (fuel : Nat) : Read Place := do
  let handles ← directives false [] fuel
  modify fun r => { r with handles := handles }
  expect .documentStart
  match ← peek with
  | some (.directive _) => addEmpty
  | _ => nodeUnless [.documentStart, .documentEnd] true false fuel

/-- Nothing may follow the only document. The directives of another one are read before it is seen
to be too many. -/
def documentsEnd (fuel : Nat) : Read Unit := do
  skipDocumentEnds fuel
  if (← peek).isSome then
    discard (directives false [] fuel)
    fail

def single (fuel : Nat) : Read (Option Place) := do
  match ← peek with
  | none => return none
  | some first =>
      let isMarked :=
        match first with
        | .directive _ | .documentStart => true
        | _ => false
      let found ← if isMarked then marked fuel else node true false fuel
      documentsEnd fuel
      return some found

end Read

def nodesOf (document : List Char) : Except Defect (Graph × Option Place) := do
  let found := tokens document
  let fuel := 4 * found.tokens.length + 4
  let (root, r) ← (Read.single fuel).run
    ⟨found.tokens, found.stop, #[], [], Read.standardHandles⟩
  return (r.graph, root)

end QueryShell.Yaml
