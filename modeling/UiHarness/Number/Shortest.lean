import UiHarness.Number.Binary64
import UiHarness.Text

/-!
# Decimal text of floating point numbers

A number is written with as few decimal digits as tell it from all other numbers of its format, and
among the texts with so few digits with the one nearest to it.  A number of digits is enough if one
of the two neighbours of the number on the decimal grid of so many digits rounds to the number.

Numbers from one ten-thousandth up to below ten to the power of 16 are written without an exponent
and with at least one digit behind the point; the exponent of others has a sign and at least two
digits.
-/

namespace UiHarness.Binary64

/-! ## 1.  The shortest digits -/

/-- The decimal exponent of the first digit of a positive number that is less than one, searched
among the next `n` ones. -/
def smallExponent (units : Nat) : Nat → Nat → Nat
  | 0, j => j
  | n + 1, j => if one ≤ units * Nat.pow 10 j then j else smallExponent units n (j + 1)

/-- The decimal exponent of the first digit of a positive number. -/
def firstExponent (units : Nat) : Int :=
  if one ≤ units then ((Nat.toDigits 10 (units / one)).length : Int) - 1
  else -(smallExponent units 400 1 : Int)

/-- Whether a decimal fraction rounds to a number of units. -/
def readsBack (units digits : Nat) (exponent : Int) : Bool :=
  ofDecimal false digits exponent = finite false units

/-- The neighbour on a decimal grid that rounds to a number; the nearer one if both do, and the
even one if they are as near. -/
def onGrid? (units : Nat) (exponent : Int) : Option Nat :=
  let (num, den) : Nat × Nat :=
    match exponent with
    | .ofNat e => (units, one * Nat.pow 10 e)
    | .negSucc e => (units * Nat.pow 10 (e + 1), one)
  let below := num / den
  let nearest := nearestEven num den
  let other := if nearest = below then below + 1 else below
  if readsBack units nearest exponent then some nearest
  else if readsBack units other exponent then some other
  else none

/-- The shortest digits of a positive number with the exponent of the last of them, among the next
`n` numbers of digits. -/
def shortestFrom (units : Nat) (first : Int) : Nat → Nat → Nat × Int
  | 0, count => (nearestEven units one, first - count)
  | n + 1, count =>
    match onGrid? units (first - count) with
    | some digits => (digits, first - count)
    | none => shortestFrom units first n (count + 1)

/-- The shortest digits of a positive number with the exponent of the last of them. -/
def shortest (units : Nat) : Nat × Int := shortestFrom units (firstExponent units) 20 0

/-! ## 2.  The text -/

/-- Zeros. -/
def zeros (n : Nat) : Text := List.replicate n '0'

/-- Digits without the zeros at their end, and the exponent of the last one left. -/
def trimmed (digits : Text) (exponent : Int) : Text × Int :=
  let kept := Text.dropEndWhile (· = '0') digits
  (kept, exponent + (digits.length - kept.length : Nat))

/-- Digits with the exponent of the first one, as a number. -/
def layout (digits : Text) (first : Int) : Text :=
  let count : Int := digits.length
  if -4 ≤ first ∧ first < 16 then
    if first < 0 then "0." ++ zeros (-first - 1).toNat ++ digits
    else if count ≤ first + 1 then digits ++ zeros (first + 1 - count).toNat ++ ".0"
    else digits.take (first + 1).toNat ++ '.' :: digits.drop (first + 1).toNat
  else
    let mantissa :=
      if digits.length ≤ 1 then digits else digits.take 1 ++ '.' :: digits.drop 1
    let power := Text.ofNat first.natAbs
    mantissa ++ 'e' :: (if first < 0 then '-' else '+') :: zeros (2 - power.length) ++ power

/-- The text of a number of units without a sign. -/
def magnitude (units : Nat) : Text :=
  if units = 0 then "0.0"
  else
    let (digits, exponent) := shortest units
    let (kept, exponent) := trimmed (Text.ofNat digits) exponent
    layout kept (exponent + kept.length - 1)

/-- The text of a number. -/
def text : Binary64 → Text
  | nan => "nan"
  | infinite negative => if negative then "-inf" else "inf"
  | finite negative units => if negative then '-' :: magnitude units else magnitude units

end UiHarness.Binary64
