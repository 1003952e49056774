import UiHarness.Text

/-!
# Classes of characters given by ranges

A property of characters that a standard fixes is written as the ascending list of its maximal
ranges of code points.  Membership walks along the list and stops at the first range that lies
beyond the character.
-/

namespace UiHarness.Text

/-- Whether a number lies in one of the ranges of an ascending list. -/
def inRanges (n : Nat) : List (Nat × Nat) → Bool
  | [] => false
  | (lo, hi) :: rest => if n < lo then false else n ≤ hi || inRanges n rest

end UiHarness.Text
