/-!
Runs of decimal digits and the numbers they denote.
-/

namespace Metering.Decimal

/-- The number that a run of digits denotes; the empty run denotes zero. -/
def natOfDigits (cs : List Char) : Nat :=
  cs.foldl (fun n c => 10 * n + (c.toNat - '0'.toNat)) 0

/-- How many decimal digits the number has; zero has none. -/
def digitCount (n : Nat) : Nat :=
  if n = 0 then 0 else (Nat.toDigits 10 n).length

def isDigits (cs : List Char) : Bool :=
  cs.all Char.isDigit

example : natOfDigits ['0', '4', '2'] = 42 := by decide

end Metering.Decimal
