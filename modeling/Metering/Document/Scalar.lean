/-!
Scalars of a document: what a plain or a quoted scalar takes up of the text, and the text it stands
for.

A scalar may run over several lines. The blanks and line breaks between two of its words form a gap,
and `Gap.text` says what becomes of it: blanks within a line stay as they are, a single line break
becomes a space, and of several line breaks the first is dropped.
-/

namespace Metering.Document

/-! ### Characters -/

/-- Characters a document may hold. -/
def isDocumentChar (c : Char) : Bool :=
  let n := c.toNat
  n == 9 || n == 10 || n == 13 || (0x20 ≤ n && n ≤ 0x7E) || n == 0x85 || (0xA0 ≤ n && n ≤ 0xFFFD)
    || 0x10000 ≤ n

/-- Gives every way to end a line the same form. Only the line separator and the paragraph
separator, which stay what they are inside a scalar, are left alone. -/
def unifyBreaks : List Char → List Char
  | [] => []
  | '\r' :: '\n' :: rest => '\n' :: unifyBreaks rest
  | c :: rest => (if c == '\r' || c == '\u0085' then '\n' else c) :: unifyBreaks rest

def isBreak (c : Char) : Bool :=
  c == '\n' || c == '\u2028' || c == '\u2029'

def isGap (c : Char) : Bool :=
  c == ' ' || c == '\t'

/-- The text ends here, or a blank or a line break follows. -/
def atGap : List Char → Bool
  | [] => true
  | c :: _ => isGap c || isBreak c

/-- Three dashes or three dots stand here alone. At the left edge they end whatever is being
read. -/
def atDivider : List Char → Bool
  | '-' :: '-' :: '-' :: rest | '.' :: '.' :: '.' :: rest => atGap rest
  | _ => false

def isBracketMark (c : Char) : Bool :=
  c == ',' || c == '[' || c == ']' || c == '\x7b' || c == '\x7d'

/-- A place in a text: its line, and how many characters and how many bytes of the line come
before it. -/
structure Position where
  line : Nat := 0
  column : Nat := 0
  width : Nat := 0
deriving DecidableEq, Repr

def Position.next (p : Position) (c : Char) : Position :=
  if isBreak c then ⟨p.line + 1, 0, 0⟩ else ⟨p.line, p.column + 1, p.width + c.utf8Size⟩

/-- The position after the given characters. -/
def Position.after (p : Position) (cs : List Char) : Position :=
  cs.foldl Position.next p

/-! ### Gaps -/

/-- The blanks before the first line break of a gap, and its line breaks. A joint gap is one that
starts with a line break written after a backslash, which does not count. -/
structure Gap where
  blanks : List Char := []
  breaks : List Char := []
  joint : Bool := false
deriving DecidableEq, Repr

def Gap.isEmpty (g : Gap) : Bool :=
  g.blanks.isEmpty && g.breaks.isEmpty

/-- The gap goes over the end of a line. -/
def Gap.endsLine (g : Gap) : Bool :=
  !g.breaks.isEmpty

/-- The gap with one more blank or line break. Blanks at the start of a line are dropped. -/
def Gap.add (g : Gap) (c : Char) : Gap :=
  if isBreak c then { g with breaks := g.breaks ++ [c] }
  else if g.joint || g.endsLine then g
  else { g with blanks := g.blanks ++ [c] }

/-- What stands for the gap when more text follows. -/
def Gap.text (g : Gap) : List Char :=
  if g.joint then g.breaks
  else match g.breaks with
    | [] => g.blanks
    | ['\n'] => [' ']
    | '\n' :: more => more
    | breaks => breaks

/-! ### Plain scalars -/

/-- A scalar, and what comes after it and after the blanks that follow it. -/
structure Plain where
  text : List Char
  /-- The blanks that follow go over the end of a line. -/
  endsLine : Bool
  rest : List Char
  position : Position

/-- A plain scalar does not go on with `c`. After a gap it ends before a comment, a divider, or
outside brackets a line that starts left of the column `least`; elsewhere before a colon with a
blank after it, and inside brackets before a comma or a bracket. -/
def endsPlain (inBrackets : Bool) (least : Nat) (gap : Gap) (p : Position) (c : Char)
    (rest : List Char) : Bool :=
  (c == '#' && !gap.isEmpty)
    || (gap.endsLine
      && ((p.column == 0 && atDivider (c :: rest)) || (!inBrackets && p.column < least)))
    || (c == ':' && atGap rest)
    || (inBrackets && isBracketMark c)

/-- Reads on in a plain scalar after the given gap. A tab left of the column `least` is refused, and
so is a colon directly before another mark inside brackets. -/
def takePlain? (inBrackets : Bool) (least : Nat) (gap : Gap) (p : Position) :
    List Char → Option Plain
  | [] => some ⟨[], gap.endsLine, [], p⟩
  | c :: rest =>
    if isGap c || isBreak c then
      if c == '\t' && gap.endsLine && p.column < least then none
      else takePlain? inBrackets least (gap.add c) (p.next c) rest
    else if endsPlain inBrackets least gap p c rest then some ⟨[], gap.endsLine, c :: rest, p⟩
    else if inBrackets && c == ':' && rest.head?.any (fun d => isBracketMark d || d == '?') then
      none
    else (takePlain? inBrackets least {} (p.next c) rest).map fun plain =>
      { plain with text := gap.text ++ c :: plain.text }

/-! ### Quoted scalars -/

/-- The characters before a closing quote, and what comes after it. -/
structure Quoted where
  raw : List Char
  rest : List Char
  position : Position

/-- Reads up to the closing quote. A single quote is doubled inside single quotes, and a character
after a backslash never closes double quotes. -/
def takeQuoted? (quote : Char) (p : Position) : List Char → Option Quoted
  | [] => none
  | c :: rest =>
    if p.column == 0 && atDivider (c :: rest) then none
    else if c == quote then
      match rest with
      | d :: more =>
        if quote == '\'' && d == '\'' then
          (takeQuoted? quote ((p.next c).next d) more).map fun q => { q with raw := '\'' :: q.raw }
        else some ⟨[], rest, p.next c⟩
      | [] => some ⟨[], rest, p.next c⟩
    else if quote == '"' && c == '\\' then
      match rest with
      | d :: more =>
        (takeQuoted? quote ((p.next c).next d) more).map fun q => { q with raw := c :: d :: q.raw }
      | [] => none
    else (takeQuoted? quote (p.next c) rest).map fun q => { q with raw := c :: q.raw }

/-- What a quoted scalar is made of. -/
inductive Piece where
  /-- A character that stands for itself or was escaped. -/
  | letter (c : Char)
  /-- A blank or a line break. -/
  | space (c : Char)
  /-- A line break after a backslash. -/
  | joint
deriving DecidableEq, Repr

def Piece.ofChar (c : Char) : Piece :=
  if isGap c || isBreak c then .space c else .letter c

/-- The text of the pieces, the first of which comes after the given gap. -/
def joinPieces (gap : Gap) : List Piece → List Char
  | [] => gap.text
  | .letter c :: rest => gap.text ++ c :: joinPieces {} rest
  | .space c :: rest => joinPieces (gap.add c) rest
  | .joint :: rest => gap.text ++ joinPieces { joint := true } rest

def hexValue? (c : Char) : Option Nat :=
  if c.isDigit then some (c.toNat - '0'.toNat)
  else if 'a' ≤ c ∧ c ≤ 'f' then some (c.toNat - 'a'.toNat + 10)
  else if 'A' ≤ c ∧ c ≤ 'F' then some (c.toNat - 'A'.toNat + 10)
  else none

/-- The character with the given hexadecimal number. -/
def hexChar? (digits : List Char) : Option Char := do
  let values ← digits.mapM hexValue?
  let n := values.foldl (fun n d => 16 * n + d) 0
  if n < 0xD800 ∨ (0xDFFF < n ∧ n < 0x110000) then some (Char.ofNat n) else none

/-- The characters that a letter after a backslash stands for. -/
def escapeChar? : Char → Option Char
  | '0' => some '\x00'
  | 'a' => some '\x07'
  | 'b' => some '\x08'
  | 't' | '\t' => some '\t'
  | 'n' => some '\n'
  | 'v' => some '\x0b'
  | 'f' => some '\x0c'
  | 'r' => some '\r'
  | 'e' => some '\x1b'
  | ' ' => some ' '
  | '"' => some '"'
  | '/' => some '/'
  | '\\' => some '\\'
  | 'N' => some '\u0085'
  | '_' => some '\u00a0'
  | 'L' => some '\u2028'
  | 'P' => some '\u2029'
  | _ => none

/-- The pieces of a double-quoted scalar. -/
def pieces? : List Char → Option (List Piece)
  | [] => some []
  | '\\' :: 'x' :: a :: b :: rest => do
    let c ← hexChar? [a, b]
    let more ← pieces? rest
    some (.letter c :: more)
  | '\\' :: 'u' :: a :: b :: c :: d :: rest => do
    let e ← hexChar? [a, b, c, d]
    let more ← pieces? rest
    some (.letter e :: more)
  | '\\' :: 'U' :: a :: b :: c :: d :: e :: f :: g :: h :: rest => do
    let i ← hexChar? [a, b, c, d, e, f, g, h]
    let more ← pieces? rest
    some (.letter i :: more)
  | '\\' :: c :: rest =>
    if isBreak c then (pieces? rest).map (.joint :: ·)
    else do
      let e ← escapeChar? c
      let more ← pieces? rest
      some (.letter e :: more)
  | c :: rest => (pieces? rest).map (.ofChar c :: ·)

/-- The text that the characters between two quotes stand for. -/
def quotedText? (quote : Char) (raw : List Char) : Option (List Char) :=
  if quote == '"' then (pieces? raw).map (joinPieces {})
  else some (joinPieces {} (raw.map .ofChar))

end Metering.Document
