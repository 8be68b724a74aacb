import Metering.Decimal.Digits
import Metering.Document.Scalar

/-!
Names of anchors, tags, and the directives before a document.

A tag stands for a text that a handle shortens. The directives say which texts the handles of a
document stand for; two handles have a meaning of their own. Tags may hold any octet, escaped, so
they are put together from octets.
-/

namespace Metering.Document

/-! ### Names -/

def isNameChar (c : Char) : Bool :=
  c.isAlphanum || c == '_' || c == '-'

/-- Marks that may stand directly after the name of an anchor. -/
def endsName (c : Char) : Bool :=
  ['?', ':', ',', ']', '\x7d', '%', '@', '\x60'].contains c

/-- The name of an anchor, and what comes after it. -/
def takeName? (cs : List Char) : Option (String × List Char) :=
  let name := cs.takeWhile isNameChar
  let rest := cs.dropWhile isNameChar
  if !name.isEmpty && (atGap rest || rest.head?.any endsName) then
    some (String.ofList name, rest)
  else none

/-! ### Octets -/

/-- How many octets of a character follow one that starts it. -/
def octetsAfter? (octet : Nat) : Option Nat :=
  if octet < 0x80 then some 0
  else if octet < 0xC0 then none
  else if octet < 0xE0 then some 1
  else if octet < 0xF0 then some 2
  else if octet < 0xF8 then some 3
  else none

/-- How many octets of a character are owed after the given one, when `owed` were before it. -/
def owedAfter? (owed octet : Nat) : Option Nat :=
  if owed = 0 then octetsAfter? octet
  else if octet / 0x40 = 2 then some (owed - 1)
  else none

/-- Characters that stand for themselves in a tag. In one that is written out in full there may be
commas and brackets too. -/
def isTagChar (inFull : Bool) (c : Char) : Bool :=
  isNameChar c
    || [';', '/', '?', ':', '@', '&', '=', '+', '$', '.', '!', '~', '*', '\'', '(', ')'].contains c
    || (inFull && [',', '[', ']'].contains c)

/-- The octets of a part of a tag, and what comes after it. A percent sign and two hexadecimal
digits stand for an octet, and the octets of a character are all written so; `owed` of them are
still to come. -/
def takeOctets? (inFull : Bool) (owed : Nat) : List Char → Option (List UInt8 × List Char)
  | '%' :: a :: b :: rest => do
    let octet := 16 * (← hexValue? a) + (← hexValue? b)
    let owed ← owedAfter? owed octet
    let (more, rest) ← takeOctets? inFull owed rest
    some (octet.toUInt8 :: more, rest)
  | c :: rest =>
    if owed ≠ 0 || c == '%' then none
    else if isTagChar inFull c then
      (takeOctets? inFull 0 rest).map fun (more, rest) => (c.toNat.toUInt8 :: more, rest)
    else some ([], c :: rest)
  | [] => if owed = 0 then some ([], []) else none

/-- The octets of a part of a tag, of which there is one at least. It ends before a null octet. -/
def takePart? (inFull : Bool) (cs : List Char) : Option (List UInt8 × List Char) := do
  let (octets, rest) ← takeOctets? inFull 0 cs
  if octets.isEmpty then none else some (octets.takeWhile (· != 0), rest)

/-- The text that octets encode. Octets that encode none count as the empty text. -/
def textOfOctets (octets : List UInt8) : String :=
  (String.fromUTF8? ⟨octets.toArray⟩).getD ""

/-! ### Directives -/

/-- What the directives before a document have said. -/
structure Preamble where
  /-- The version of the format was given. -/
  versioned : Bool := false
  /-- What each handle stands for. -/
  handles : List (String × List UInt8) := []
deriving DecidableEq, Repr

/-- What a handle stands for. -/
def Preamble.handle? (p : Preamble) (handle : String) : Option (List UInt8) :=
  match p.handles.lookup handle, handle with
  | some octets, _ => some octets
  | none, "!" => some "!".toUTF8.toList
  | none, "!!" => some "tag:yaml.org,2002:".toUTF8.toList
  | none, _ => none

/-- A number of nine digits at most. -/
def takeNumber? (cs : List Char) : Option (Nat × List Char) :=
  let digits := cs.takeWhile Char.isDigit
  if digits.isEmpty || 9 < digits.length then none
  else some (Decimal.natOfDigits digits, cs.dropWhile Char.isDigit)

/-- Reads a version, which is given once. -/
def Preamble.version? (p : Preamble) (cs : List Char) : Option (Preamble × List Char) := do
  match ← takeNumber? cs with
  | (1, '.' :: rest) =>
    let (minor, rest) ← takeNumber? rest
    if !p.versioned && (minor == 1 || minor == 2) then some ({ p with versioned := true }, rest)
    else none
  | _ => none

/-- The handle after an exclamation mark: with a second mark after a name, which may be empty, or
the mark alone. -/
def takeHandle? (cs : List Char) : Option (String × List Char) :=
  let name := cs.takeWhile isNameChar
  match cs.dropWhile isNameChar with
  | '!' :: rest => some (String.ofList ('!' :: name ++ ['!']), rest)
  | rest => if name.isEmpty then some ("!", rest) else none

/-- Reads a handle and what it stands for, which is given once. -/
def Preamble.define? (p : Preamble) : List Char → Option (Preamble × List Char)
  | '!' :: cs => do
    let (handle, rest) ← takeHandle? cs
    if !rest.head?.any isGap || (p.handles.lookup handle).isSome then none
    else
      let (octets, rest) ← takePart? true (rest.dropWhile isGap)
      if atGap rest then some ({ p with handles := (handle, octets) :: p.handles }, rest)
      else none
  | _ => none

/-- Reads a directive after its percent sign. -/
def Preamble.read? (p : Preamble) (cs : List Char) : Option (Preamble × List Char) :=
  let rest := cs.dropWhile isNameChar
  let argument := rest.dropWhile isGap
  if !atGap rest then none
  else match String.ofList (cs.takeWhile isNameChar) with
    | "YAML" => p.version? argument
    | "TAG" => p.define? argument
    | _ => none

/-! ### Tags -/

/-- A tag, and what comes after it. -/
structure Tag where
  text : String
  rest : List Char

/-- Reads a tag after its exclamation mark: in full between angle brackets, with the handle before
it, or with the mark alone for a handle. The mark alone is a tag of its own. -/
def Preamble.takeTag? (p : Preamble) (cs : List Char) : Option Tag := do
  match cs, cs.dropWhile isNameChar with
  | '<' :: cs, _ =>
    match ← takePart? true cs with
    | (octets, '>' :: rest) => some ⟨textOfOctets octets, rest⟩
    | _ => none
  | _, '!' :: rest =>
    let start ← p.handle? (String.ofList ('!' :: cs.takeWhile isNameChar ++ ['!']))
    let (octets, rest) ← takePart? false rest
    some ⟨textOfOctets (start ++ octets), rest⟩
  | _, _ =>
    let (octets, rest) ← takeOctets? false 0 cs
    match octets.takeWhile (· != 0) with
    | [] => some ⟨"!", rest⟩
    | octets => some ⟨textOfOctets ((← p.handle? "!") ++ octets), rest⟩

end Metering.Document
