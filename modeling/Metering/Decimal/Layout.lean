import Metering.Decimal.Shortest

/-!
How a float is written: the digits of its shortest decimal, laid out positionally or with an
exponent. A layout says from which to which decimal point position the positional form is
used, whether a whole number keeps a fraction of zero, and which of two equally short and equally
near decimals is written.
-/

namespace Metering.Decimal

/-- The choices of one written form. The point position of `0.00123` is `-2`, that of
`1.23` is `1`. -/
structure Layout where
  lowestPoint : Option Int
  highestPoint : Option Int
  wholeFraction : Bool
  tie : Tie
deriving DecidableEq, Repr

/-- Always positional, whole numbers without a fraction: the form used in messages. -/
def Layout.plain : Layout := ⟨none, none, false, .upper⟩

/-- Positional from `0.0001` to below ten to the sixteenth, whole numbers with `.0`: the form
used in diagnostic descriptions. -/
def Layout.diagnostic : Layout := ⟨some (-3), some 16, true, .upper⟩

/-- Positional from `0.00001` to below ten to the sixteenth, whole numbers with `.0`: the form
used in settings documents. -/
def Layout.document : Layout := ⟨some (-4), some 16, true, .even⟩

def Layout.isPositional (layout : Layout) (point : Int) : Bool :=
  layout.lowestPoint.all (· ≤ point) && layout.highestPoint.all (point ≤ ·)

/-- The digits with the point at its position, zeros filled in on either side. -/
def positional (digits : List Char) (point : Int) (wholeFraction : Bool) : List Char :=
  if point ≤ 0 then '0' :: '.' :: (List.replicate (-point).toNat '0' ++ digits)
  else if digits.length ≤ point.toNat then
    digits ++ List.replicate (point.toNat - digits.length) '0'
      ++ (if wholeFraction then ['.', '0'] else [])
  else digits.take point.toNat ++ '.' :: digits.drop point.toNat

/-- The digits with the point after the first one, followed by the power of ten. -/
def scientific (digits : List Char) (point : Int) : List Char :=
  let fraction := if digits.length ≤ 1 then [] else '.' :: digits.drop 1
  digits.take 1 ++ fraction ++ 'e' :: (toString (point - 1)).toList

/-- A positive decimal number in the given layout. -/
def Layout.writeDecimal (layout : Layout) (d : Decimal) : List Char :=
  let digits := Nat.toDigits 10 d.digits
  let point := digits.length + d.exponent
  if layout.isPositional point then positional digits point layout.wholeFraction
  else scientific digits point

/-- A float in the given layout. -/
def Layout.write (layout : Layout) (x : Float) : String :=
  let sign := if isNegative x then ['-'] else []
  match magnitude x with
  | .notANumber => "NaN"
  | .infinite => String.ofList (sign ++ ['i', 'n', 'f'])
  | .finite 0 _ => String.ofList (sign ++ '0' :: if layout.wholeFraction then ['.', '0'] else [])
  | .finite mantissa exponent =>
    String.ofList
      (sign ++ layout.writeDecimal (shortest layout.tie (unsignedBits x) mantissa exponent))

example : Layout.plain.write 1125899906843633.25 = "1125899906843633.3" := by decide +kernel

example : Layout.document.write 1125899906843633.25 = "1125899906843633.2" := by decide +kernel

end Metering.Decimal
