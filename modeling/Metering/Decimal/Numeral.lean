import Metering.Decimal.Binary

/-!
Numerals in text: an optional sign, whole digits that may be grouped in threes by commas, an
optional point with a fraction, and an optional power of ten. `Numeral.read?` splits a text into
these parts and checks them; `Numeral.toFloat?` gives the nearest finite float.
-/

namespace Metering.Decimal

/-- A numeral read from text: `± digits · 10 ^ exponent`. -/
structure Numeral where
  negative : Bool
  digits : Nat
  exponent : Int
deriving DecidableEq, Repr

/-- Takes one leading sign away; `true` for a minus. -/
def takeSign : List Char → Bool × List Char
  | '-' :: rest => (true, rest)
  | '+' :: rest => (false, rest)
  | cs => (false, cs)

/-- Cuts the text at the first character that satisfies `p`, which is dropped; the second
part is `none` when there is no such character. -/
def cutAt (p : Char → Bool) (cs : List Char) : List Char × Option (List Char) :=
  match cs.dropWhile (!p ·) with
  | [] => (cs, none)
  | _ :: rest => (cs.takeWhile (!p ·), some rest)

/-- Groups of exactly three digits, each led by a comma. -/
def isGroupTail : List Char → Bool
  | [] => true
  | ',' :: a :: b :: c :: rest => isDigits [a, b, c] && isGroupTail rest
  | _ => false

/-- Whole digits: none or more without commas, or one to three followed by groups. -/
def isWholePart (cs : List Char) : Bool :=
  let leading := cs.takeWhile Char.isDigit
  match cs.dropWhile Char.isDigit with
  | [] => true
  | tail => 1 ≤ leading.length && leading.length ≤ 3 && isGroupTail tail

/-- The power of ten written after the exponent mark. -/
def readExponent? (cs : List Char) : Option Int :=
  let (negative, digits) := takeSign cs
  if digits.isEmpty || !isDigits digits then none
  else some (if negative then -natOfDigits digits else natOfDigits digits)

/-- Reads a whole text as a numeral. -/
def Numeral.read? (cs : List Char) : Option Numeral := do
  let (negative, unsigned) := takeSign cs
  let (mantissa, power) := cutAt (fun c => c == 'e' || c == 'E') unsigned
  let (whole, fraction) := cutAt (· == '.') mantissa
  let fraction := fraction.getD []
  let exponent ← match power with
    | none => some 0
    | some cs => readExponent? cs
  if !isWholePart whole || !isDigits fraction || (whole.isEmpty && fraction.isEmpty) then none
  else
    let digits := whole.filter (· != ',') ++ fraction
    some ⟨negative, natOfDigits digits, exponent - fraction.length⟩

/-- The nearest float, if it is finite. -/
def Numeral.toFloat? (n : Numeral) : Option Float :=
  Decimal.toFloat? n.negative n.digits n.exponent

example : Numeral.read? "-1,234.50e+2".toList = some ⟨true, 123450, 0⟩ := by decide +kernel

example : Numeral.read? "1234,567".toList = none := by decide +kernel

example : Numeral.read? ".".toList = none := by decide +kernel

end Metering.Decimal
