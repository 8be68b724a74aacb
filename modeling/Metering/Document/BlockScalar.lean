import Metering.Document.Scalar

/-!
Block scalars: scalars that take up the lines below them, by indentation.

A block scalar is read in two steps. `takeBody?` cuts the indentation off its lines, and
`blockText` joins what is left: a literal scalar keeps its line breaks, a folded one treats those
between two lines of text as a gap.
-/

namespace Metering.Document

/-! ### Headers -/

/-- What becomes of the line breaks at the end of a block scalar. -/
inductive Chomping where
  /-- None is kept. -/
  | strip
  /-- The first one is kept. -/
  | clip
  /-- All are kept. -/
  | keep
deriving DecidableEq, Repr

def Chomping.ofMark? : Char → Option Chomping
  | '-' => some .strip
  | '+' => some .keep
  | _ => none

/-- The number of columns that a digit indents by. -/
def indentOfDigit? (c : Char) : Option Nat :=
  if c.isDigit && c != '0' then some (c.toNat - '0'.toNat) else none

/-- What the rest of the line says on which a block scalar starts. -/
structure Header where
  chomping : Chomping := .clip
  /-- The columns by which its lines are indented, if they are given. -/
  indent : Option Nat := none
deriving DecidableEq, Repr

/-- Reads a header, whose two parts may stand in either order. -/
def takeHeader : List Char → Header × List Char
  | [] => ({}, [])
  | c :: rest =>
    match Chomping.ofMark? c, indentOfDigit? c with
    | some chomping, _ =>
      match rest.head?.bind indentOfDigit? with
      | some indent => ({ chomping, indent := some indent }, rest.tail)
      | none => ({ chomping }, rest)
    | none, some indent =>
      match rest.head?.bind Chomping.ofMark? with
      | some chomping => ({ chomping, indent := some indent }, rest.tail)
      | none => ({ indent := some indent }, rest)
    | none, none => ({}, c :: rest)

/-- What comes after the line break that ends the line. Before it there are only blanks and a
comment. -/
def endLine? (cs : List Char) : Option (List Char) :=
  match cs.dropWhile isGap with
  | '#' :: rest => some (rest.dropWhile (!isBreak ·)).tail
  | c :: rest => if isBreak c then some rest else none
  | [] => some []

/-! ### Lines -/

/-- The deepest column of the empty lines at the front and of the first line that is not empty,
which must not start with a tab. -/
def deepest? (column : Nat) : List Char → Option Nat
  | [] => some column
  | c :: rest =>
    if c == ' ' then deepest? (column + 1) rest
    else if isBreak c then (deepest? 0 rest).map (max column)
    else if c == '\t' then none
    else some column

/-- The lines of a block scalar without their indentation, and what comes after them. -/
structure Body where
  raw : List Char
  rest : List Char
  position : Position

/-- Takes the lines up to the first one with text left of the given column. No tab is left of
it. -/
def takeBody? (indent : Nat) (p : Position) : List Char → Option Body
  | [] => some ⟨[], [], p⟩
  | c :: rest =>
    if isBreak c || indent ≤ p.column then
      (takeBody? indent (p.next c) rest).map fun b => { b with raw := c :: b.raw }
    else if c == ' ' then takeBody? indent (p.next c) rest
    else if c == '\t' then none
    else some ⟨[], c :: rest, p⟩

/-- A line with text, and the line breaks after it. Without text these are the line breaks before
the first such line. -/
structure Line where
  text : List Char := []
  breaks : List Char := []
deriving DecidableEq, Repr

def linesOf : List Char → List Line
  | [] => []
  | c :: rest =>
    match linesOf rest with
    | [] => if isBreak c then [⟨[], [c]⟩] else [⟨[c], []⟩]
    | line :: more =>
      if !isBreak c then { line with text := c :: line.text } :: more
      else if line.text.isEmpty then { line with breaks := c :: line.breaks } :: more
      else ⟨[], [c]⟩ :: line :: more

/-- The line has text, which does not start with a blank. -/
def Line.isFlush (l : Line) : Bool :=
  l.text.head?.any (!isGap ·)

/-- What stands between a line and the next one. -/
def Line.joint (folded : Bool) (l next : Line) : List Char :=
  if folded && l.isFlush && next.isFlush then Gap.text { breaks := l.breaks } else l.breaks

/-- What stands at the end when no line follows. -/
def Line.ending (chomping : Chomping) (l : Line) : List Char :=
  match chomping with
  | .strip => []
  | .clip => if l.text.isEmpty then [] else l.breaks.take 1
  | .keep => l.breaks

def joinLines (folded : Bool) (chomping : Chomping) : List Line → List Char
  | [] => []
  | [line] => line.text ++ line.ending chomping
  | line :: next :: rest =>
    line.text ++ line.joint folded next ++ joinLines folded chomping (next :: rest)

/-- The text that the lines of a block scalar stand for. -/
def blockText (folded : Bool) (chomping : Chomping) (raw : List Char) : List Char :=
  joinLines folded chomping (linesOf raw)

/-! ### Block scalars -/

/-- A block scalar, and what comes after it. -/
structure Block where
  text : List Char
  rest : List Char
  position : Position

/-- Reads a block scalar after its mark. Its lines start at the column `least` or further right:
where the header says, counted from the collection around it, and otherwise where the first of them
starts. -/
def takeBlock? (folded : Bool) (least : Nat) (p : Position) (cs : List Char) : Option Block := do
  let (header, rest) := takeHeader cs
  let rest ← endLine? rest
  let indent ←
    match header.indent with
    | some columns => some (least - 1 + columns)
    | none => (deepest? 0 rest).map fun column => max column (max least 1)
  let body ← takeBody? indent (p.after (cs.take (cs.length - rest.length))) rest
  some ⟨blockText folded header.chomping body.raw, body.rest, body.position⟩

example : blockText true .clip "a\nb\n\nc\n\n".toList = "a b\nc\n".toList := by decide +kernel

example : blockText false .keep "a\n\n".toList = "a\n\n".toList := by decide +kernel

end Metering.Document
