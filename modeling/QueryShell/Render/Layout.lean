import QueryShell.Render.View
import QueryShell.Render.Wrap

namespace QueryShell.Render

def shownOrFault : Except Fault Str → List Char
  | .ok text => text.shown
  | .error fault => "<repr-error ".toList ++ Text.quoteChars fault.message ++ ['>']

inductive Block where
  | leaf (text : List Char)
  | group (shape : Shape) (parts : List (List Char × Block))

def keyText : Option (Except Fault Str) → List Char
  | none => []
  | some key => shownOrFault key ++ [':', ' ']

mutual

def Block.ofView : View → Block
  | .leaf text => .leaf (shownOrFault text)
  | .group shape parts => .group shape (blocksOfViews parts)
termination_by structural view => view

def blocksOfViews :
    List (Option (Except Fault Str) × View) → List (List Char × Block)
  | [] => []
  | (key, view) :: parts => (keyText key, Block.ofView view) :: blocksOfViews parts
termination_by structural parts => parts

end

def separator : List Char := [',', ' ']

mutual

def Block.flat : Block → List Char
  | .leaf text => text
  | .group shape parts =>
      shape.opening.toList ++ partsFlat parts ++
        (if shape = .tuple && parts.length == 1 then [','] else []) ++ shape.closing.toList
termination_by structural block => block

def partsFlat : List (List Char × Block) → List Char
  | [] => []
  | [(key, block)] => key ++ block.flat
  | (key, block) :: parts => key ++ block.flat ++ separator ++ partsFlat parts
termination_by structural parts => parts

end

structure Page where
  width : Nat
  openAll : Bool

def indentWidth : Nat := 4

def suffix (follows : List Char) (ends : Bool) : List Char :=
  if ends then [] else Text.trimRight follows

mutual

/-- The lines of a block, with its indent, its key and what follows it. A line that ends without
what follows it must still have room for that. -/
def Block.layOut (page : Page) (indent : Nat) (key : List Char) (follows : List Char)
    (ends : Bool) : Block → List (List Char)
  | .leaf text => [Text.spaces indent ++ key ++ text ++ suffix follows ends]
  | .group shape parts =>
      let flat := key ++ (Block.group shape parts).flat
      let room := indent + Text.cellLength flat + Text.cellLength follows
      if parts.isEmpty || (!page.openAll && room ≤ page.width) then
        [Text.spaces indent ++ flat ++ suffix follows ends]
      else
        let alone := shape = .tuple && parts.length == 1
        (Text.spaces indent ++ key ++ shape.opening.toList) ::
          (layOutParts page (indent + indentWidth) alone parts ++
            [Text.spaces indent ++ shape.closing.toList ++ suffix follows ends])
termination_by structural block => block

def layOutParts (page : Page) (indent : Nat) (alone : Bool) :
    List (List Char × Block) → List (List Char)
  | [] => []
  | (key, block) :: parts =>
      let follows := if alone then [','] else separator
      block.layOut page indent key follows (parts.isEmpty && !alone) ++
        layOutParts page indent alone parts
termination_by structural parts => parts

end

def sequenceLength (cs : List Char) : Nat :=
  match cs with
  | [] => 0
  | ']' :: rest => (titleLength 2 rest).getD 1
  | '[' :: rest =>
      let parameters := rest.takeWhile fun c => '0' ≤ c && c ≤ '?'
      let between := (rest.drop parameters.length).takeWhile fun c => ' ' ≤ c && c ≤ '/'
      match rest.drop (parameters.length + between.length) with
      | c :: _ =>
          if '@' ≤ c && c ≤ '~' then parameters.length + between.length + 2 else 0
      | [] => 0
  | c :: _ =>
      if c == '(' || ('@' ≤ c && c ≤ 'Z') || ('\\' ≤ c && c ≤ '_') then 1 else 0
where
  /-- A title ends with an escape character and a backslash. -/
  titleLength (count : Nat) : List Char → Option Nat
    | '\x1b' :: '\\' :: _ => some (count + 1)
    | [] => none
    | _ :: cs => titleLength (count + 1) cs

/-- Drops terminal sequences. The choice of a character set takes one more character along, unless
a sequence starts there. -/
def dropSequences : (fuel : Nat) → List Char → List Char
  | 0, cs => cs
  | _, [] => []
  | fuel + 1, c :: cs =>
      if c = '\x1b' then
        match sequenceLength cs, cs with
        | 0, _ => c :: dropSequences fuel cs
        | _, '(' :: rest =>
            match rest with
            | '\x1b' :: inner =>
                if sequenceLength inner == 0 then dropSequences fuel inner
                else dropSequences fuel rest
            | _ => dropSequences fuel rest.tail
        | n, _ => dropSequences fuel (cs.drop n)
      else c :: dropSequences fuel cs

def View.lines (page : Page) (view : View) : List (List Char) :=
  let laidOut := Text.joinWith ['\n'] ((Block.ofView view).layOut page 0 [] [] true)
  (Text.shownLines laidOut).flatMap fun line =>
    wrapLine .fold page.width (withoutControls (dropSequences line.length line))

end QueryShell.Render
