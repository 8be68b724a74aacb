import Metering.Document.BlockScalar
import Metering.Document.Tag

/-!
The tokens of a document: scalars, the marks between them, and the bounds of the collections that
only indentation shows.

Whether a node is the key of an entry shows when a colon follows it, on the same line and not too
far away. Until then its place is kept as a candidate, and the mark of the key, if it is one, is put
there afterwards.

Anchors are known by numbers from here on. A name stands for the number it was given last.
-/

namespace Metering.Document

/-- How a scalar is written. -/
inductive Style where
  | plain
  | quoted
  | literal
  | folded
deriving DecidableEq, Repr

inductive Token where
  | scalar (text : String) (style : Style)
  /-- The node that follows can be referred to. -/
  | anchor (id : Nat)
  /-- The node that an anchor was given to stands here too. -/
  | reference (id : Nat)
  | tag (text : String)
  /-- The key of an entry follows. -/
  | key
  /-- The value of an entry follows. -/
  | value
  /-- The dash before an item of a list. -/
  | item
  | comma
  | openMap | closeMap | openList | closeList
  /-- A mapping, or a list, that is shown by indentation starts or ends here. -/
  | startMap | startList | endBlock
  /-- A line before the content of a document that says how to read it. -/
  | directive
  /-- The dividers before and after the content of a document. -/
  | contentStart | contentEnd
deriving DecidableEq, Repr

/-- A place where the key of an entry may have started. -/
structure Candidate where
  /-- The number of tokens before it. -/
  index : Nat
  position : Position
  /-- Nothing else can stand there. -/
  required : Bool
deriving DecidableEq, Repr

/-- A colon at the given position is too late: it is on another line, or more than 1024 bytes
away. -/
def Candidate.expired (c : Candidate) (p : Position) : Bool :=
  c.position.line < p.line || c.position.width + 1024 < p.width

/-- How far the tokens of a text have been found. -/
structure Reading where
  rest : List Char
  position : Position := {}
  /-- The tokens so far, the last one first. -/
  tokens : List Token := []
  /-- The columns of the collections that indentation shows, innermost first. -/
  blocks : List Nat := []
  /-- A key can start here. -/
  keyAllowed : Bool := true
  candidate : Option Candidate := none
  /-- The candidates around each open bracket, innermost first. -/
  outer : List (Option Candidate) := []
  preamble : Preamble := {}
  /-- The number that each name stands for. -/
  anchors : List (String × Nat) := []

namespace Reading

def inBrackets (r : Reading) : Bool :=
  !r.outer.isEmpty

/-- Lines that start left of this column do not belong to a scalar that starts here. -/
def least (r : Reading) : Nat :=
  match r.blocks with
  | [] => 0
  | column :: _ => column + 1

/-! ### Steps -/

def push (r : Reading) (t : Token) : Reading :=
  { r with tokens := t :: r.tokens }

/-- Puts a token at the given place among the tokens found. -/
def insert (r : Reading) (index : Nat) (t : Token) : Reading :=
  let later := r.tokens.length - index
  { r with tokens := r.tokens.take later ++ t :: r.tokens.drop later }

def advance (r : Reading) (n : Nat) : Reading :=
  { r with rest := r.rest.drop n, position := r.position.after (r.rest.take n) }

/-- Goes on where only the given text is left. -/
def advanceTo (r : Reading) (rest : List Char) : Reading :=
  r.advance (r.rest.length - rest.length)

/-- Starts a collection at the given column, unless one is open there. -/
def openBlock (r : Reading) (t : Token) (column index : Nat) : Reading :=
  if r.inBrackets || !r.blocks.head?.all (· < column) then r
  else { r.insert index t with blocks := column :: r.blocks }

/-- Ends the innermost collections whose columns the condition holds of. Indentation does not count
inside brackets. -/
def closeBlocks (r : Reading) (closes : Nat → Bool) : Reading :=
  if r.inBrackets then r
  else { r with
    blocks := r.blocks.dropWhile closes
    tokens := (r.blocks.takeWhile closes).map (fun _ => Token.endBlock) ++ r.tokens }

/-- Gives up the candidate, which must not be required. -/
def dropCandidate? (r : Reading) : Option Reading :=
  if r.candidate.any (·.required) then none else some { r with candidate := none }

/-- Gives up the candidates that a colon from here on would come too late for. -/
def expire? (r : Reading) : Option Reading :=
  let expired (c : Candidate) : Bool := c.expired r.position
  if (r.candidate :: r.outer).any (·.any fun c => expired c && c.required) then none
  else some { r with
    candidate := r.candidate.filter (!expired ·)
    outer := r.outer.map (·.filter (!expired ·)) }

/-- What follows may be a key. It has to be one at the column of the innermost collection. -/
def markCandidate? (r : Reading) : Option Reading :=
  if !r.keyAllowed then some r
  else r.dropCandidate?.map fun r =>
    let required := !r.inBrackets && r.blocks.head? == some r.position.column
    { r with candidate := some ⟨r.tokens.length, r.position, required⟩ }

/-- Passes over blanks, line breaks and comments, and over a mark of the encoding at the start of a
line. Outside brackets a key can start on a new line, and where one can start a tab is no blank. -/
def skipGap (inBrackets comment keyAllowed : Bool) (p : Position) :
    List Char → Bool × Position × List Char
  | [] => (keyAllowed, p, [])
  | c :: rest =>
    if isBreak c then skipGap inBrackets false (keyAllowed || !inBrackets) (p.next c) rest
    else if comment || c == ' ' || (c == '\t' && (inBrackets || !keyAllowed)) then
      skipGap inBrackets comment keyAllowed (p.next c) rest
    else if c == '#' then skipGap inBrackets true keyAllowed (p.next c) rest
    else if p.column == 0 && c == '\ufeff' then
      skipGap inBrackets false keyAllowed (p.next c) rest
    else (keyAllowed, p, c :: rest)

def skip (r : Reading) : Reading :=
  let (keyAllowed, position, rest) := skipGap r.inBrackets false r.keyAllowed r.position r.rest
  { r with keyAllowed, position, rest }

/-! ### Tokens -/

/-- A divider ends all collections. -/
def divider? (r : Reading) (c : Char) : Option Reading :=
  if r.inBrackets then none
  else (r.closeBlocks fun _ => true).dropCandidate?.map fun r =>
    { (r.push (if c == '-' then .contentStart else .contentEnd)).advance 3 with
      keyAllowed := false }

def openBracket? (r : Reading) (t : Token) : Option Reading :=
  r.markCandidate?.map fun r =>
    { (r.push t).advance 1 with
      keyAllowed := true
      candidate := none
      outer := r.candidate :: r.outer }

/-- A closing bracket, which brings back the candidate around the brackets. -/
def closeBracket? (r : Reading) (t : Token) : Option Reading :=
  r.dropCandidate?.map fun r =>
    { (r.push t).advance 1 with
      keyAllowed := false
      candidate := r.outer.head?.join
      outer := r.outer.tail }

def comma? (r : Reading) : Option Reading :=
  r.dropCandidate?.map fun r => { (r.push .comma).advance 1 with keyAllowed := true }

/-- A dash, which starts a list unless one is open at its column. -/
def dash? (r : Reading) : Option Reading :=
  if r.inBrackets || !r.keyAllowed then none
  else (r.openBlock .startList r.position.column r.tokens.length).dropCandidate?.map fun r =>
    { (r.push .item).advance 1 with keyAllowed := true }

/-- A question mark before a key. -/
def question? (r : Reading) : Option Reading :=
  if !r.inBrackets && !r.keyAllowed then none
  else (r.openBlock .startMap r.position.column r.tokens.length).dropCandidate?.map fun r =>
    { (r.push .key).advance 1 with keyAllowed := !r.inBrackets }

/-- A colon, which makes the candidate the key of an entry. A mapping starts there unless one is
open at its column. -/
def colon? (r : Reading) : Option Reading :=
  match r.candidate with
  | some c =>
    let r := (r.insert c.index .key).openBlock .startMap c.position.column c.index
    some { (r.push .value).advance 1 with keyAllowed := false, candidate := none }
  | none =>
    if !r.inBrackets && !r.keyAllowed then none
    else
      let r := r.openBlock .startMap r.position.column r.tokens.length
      some { (r.push .value).advance 1 with keyAllowed := !r.inBrackets }

/-- Numbers an anchor by how many names there were before it. -/
def anchor? (r : Reading) (rest : List Char) : Option Reading := do
  let r ← r.markCandidate?
  let (name, rest) ← takeName? rest
  let id := r.anchors.length
  some { (r.push (.anchor id)).advanceTo rest with
    keyAllowed := false
    anchors := (name, id) :: r.anchors.filter (·.1 != name) }

def reference? (r : Reading) (rest : List Char) : Option Reading := do
  let r ← r.markCandidate?
  let (name, rest) ← takeName? rest
  let id ← r.anchors.lookup name
  some { (r.push (.reference id)).advanceTo rest with keyAllowed := false }

def tag? (r : Reading) (rest : List Char) : Option Reading := do
  let r ← r.markCandidate?
  let tag ← r.preamble.takeTag? rest
  if atGap tag.rest || (r.inBrackets && tag.rest.head? == some ',') then
    some { (r.push (.tag tag.text)).advanceTo tag.rest with keyAllowed := false }
  else none

/-- A directive ends all collections. -/
def directive? (r : Reading) (rest : List Char) : Option Reading := do
  let r ← (r.closeBlocks fun _ => true).dropCandidate?
  let (preamble, rest) ← r.preamble.read? rest
  let rest ← endLine? rest
  some { (r.push .directive).advanceTo rest with keyAllowed := false, preamble }

def block? (r : Reading) (style : Style) (c : Char) (rest : List Char) : Option Reading := do
  let r ← r.dropCandidate?
  let block ← takeBlock? (style == .folded) r.least (r.position.next c) rest
  some { r.push (.scalar (String.ofList block.text) style) with
    rest := block.rest, position := block.position, keyAllowed := true }

def quoted? (r : Reading) (quote : Char) (rest : List Char) : Option Reading := do
  let r ← r.markCandidate?
  let q ← takeQuoted? quote (r.position.next quote) rest
  let text ← quotedText? quote q.raw
  some { r.push (.scalar (String.ofList text) .quoted) with
    rest := q.rest, position := q.position, keyAllowed := false }

def plain? (r : Reading) : Option Reading := do
  let r ← r.markCandidate?
  let plain ← takePlain? r.inBrackets r.least {} r.position r.rest
  some { r.push (.scalar (String.ofList plain.text) .plain) with
    rest := plain.rest, position := plain.position, keyAllowed := plain.endsLine }

/-- Characters that no plain scalar starts with. -/
def isReserved (c : Char) : Bool :=
  ['|', '>', '%', '@', '\x60', '\t'].contains c

/-- Reads the token that starts with `c`. -/
def token? (r : Reading) (c : Char) (rest : List Char) : Option Reading :=
  if r.position.column == 0 && c == '%' then r.directive? rest
  else if r.position.column == 0 && atDivider (c :: rest) then r.divider? c
  else if c == '[' then r.openBracket? .openList
  else if c == '\x7b' then r.openBracket? .openMap
  else if c == ']' then r.closeBracket? .closeList
  else if c == '\x7d' then r.closeBracket? .closeMap
  else if c == ',' then r.comma?
  else if c == '-' && atGap rest then r.dash?
  else if c == '?' && (r.inBrackets || atGap rest) then r.question?
  else if c == ':' && (r.inBrackets || atGap rest) then r.colon?
  else if c == '*' then r.reference? rest
  else if c == '&' then r.anchor? rest
  else if c == '!' then r.tag? rest
  else if c == '|' && !r.inBrackets then r.block? .literal c rest
  else if c == '>' && !r.inBrackets then r.block? .folded c rest
  else if c == '"' || c == '\'' then r.quoted? c rest
  else if isReserved c then none
  else r.plain?

/-- The tokens, when the text has come to its end. -/
def finish? (r : Reading) : Option (List Token) :=
  if r.inBrackets then none
  else r.dropCandidate?.map fun r => (r.closeBlocks fun _ => true).tokens.reverse

/-- Reads the tokens that follow, at most `fuel` of them. -/
def run? : (fuel : Nat) → Reading → Option (List Token)
  | 0, _ => none
  | fuel + 1, r => do
    let r ← r.skip.expire?
    match r.rest with
    | [] => r.finish?
    | c :: rest =>
      let r ← (r.closeBlocks (r.position.column < ·)).token? c rest
      run? fuel r

end Reading

/-- The tokens of a text, each of which takes up a character at least. -/
def tokens? (text : List Char) : Option (List Token) :=
  Reading.run? (text.length + 1) { rest := text }

end Metering.Document
