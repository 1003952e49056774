/-!
# Binary floating point

The numbers of the double precision format of IEEE 754.  Every finite one is a whole multiple of
the smallest positive one, which is two to the power of −1074, so it is held as a sign and a
number of these units.  Numbers are exact and rounding is explicit: a quotient of whole numbers of
units goes to the nearest number that has at most fifty-three significant bits, and a tie to the
one whose last bit is zero.

* `Binary64.round`: the number nearest to a quotient.
* `Binary64.ofDecimal`: the number nearest to a decimal fraction.
* `Binary64.sub`, `Binary64.le`, `Binary64.intLe`: difference and order.
-/

namespace UiHarness

/-- A number of the double precision format.  `finite negative units` stands for so many units of
two to the power of −1074, with a sign also for zero. -/
inductive Binary64
  | finite (negative : Bool) (units : Nat)
  | infinite (negative : Bool)
  | nan
  deriving DecidableEq, Repr

namespace Binary64

/-! ## 1.  Rounding -/

/-- The whole number nearest to a quotient; a tie goes to the even one. -/
def nearestEven (num den : Nat) : Nat :=
  let q := num / den
  let r := num % den
  if 2 * r < den then q
  else if den < 2 * r then q + 1
  else if q % 2 = 0 then q
  else q + 1

/-- The number of significant bits. -/
def precision : Nat := 53

/-- The number of units from which on numbers are infinite: two to the power of 1024. -/
def overflow : Nat := Nat.pow 2 2098

/-- How many bits a whole number has beyond the significant ones. -/
def excess (n : Nat) : Nat := n.log2 + 1 - precision

/-- The number nearest to a quotient of units. -/
def round (negative : Bool) (num den : Nat) : Binary64 :=
  let scale := Nat.pow 2 (excess (num / den))
  let units := nearestEven num (den * scale) * scale
  if units < overflow then finite negative units else infinite negative

/-- One, in units. -/
def one : Nat := Nat.pow 2 1074

/-- The number nearest to a whole number times a power of ten.  Powers far outside the range are
decided by the number of digits. -/
def ofDecimal (negative : Bool) (digits : Nat) (exponent : Int) : Binary64 :=
  let length : Int := (Nat.toDigits 10 digits).length
  if digits = 0 then finite negative 0
  else if 400 < length + exponent then infinite negative
  else if length + exponent < -400 then finite negative 0
  else
    match exponent with
    | .ofNat e => round negative (digits * Nat.pow 10 e * one) 1
    | .negSucc e => round negative (digits * one) (Nat.pow 10 (e + 1))

/-- The number nearest to an integer. -/
def ofInt (n : Int) : Binary64 := round (n < 0) (n.natAbs * one) 1

/-! ## 2.  Difference and order -/

/-- A finite number as a signed number of units. -/
def signed (negative : Bool) (units : Nat) : Int := if negative then -units else units

/-- The number nearest to a difference. -/
def sub : Binary64 → Binary64 → Binary64
  | nan, _ => nan
  | _, nan => nan
  | infinite a, infinite b => if a = b then nan else infinite a
  | infinite a, _ => infinite a
  | _, infinite b => infinite !b
  | finite a m, finite b n =>
    let d := signed a m - signed b n
    if d = 0 then finite (a && !b) 0 else round (d < 0) d.natAbs 1

/-- Whether a number is at most as large as another; nothing is so compared with no number. -/
def le : Binary64 → Binary64 → Bool
  | nan, _ => false
  | _, nan => false
  | infinite a, infinite b => a || !b
  | infinite a, finite _ _ => a
  | finite _ _, infinite b => !b
  | finite a m, finite b n => decide (signed a m ≤ signed b n)

/-- Whether an integer is at most as large as a number. -/
def intLe (n : Int) : Binary64 → Bool
  | nan => false
  | infinite a => !a
  | finite a m => decide (n * one ≤ signed a m)

/-- Whether a number is zero. -/
def isZero : Binary64 → Bool
  | finite _ units => units = 0
  | _ => false

end Binary64

end UiHarness
