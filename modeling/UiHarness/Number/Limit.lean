import UiHarness.Text

/-!
# The limit of integers

An integer is read from decimal only if it has no more than 4300 digits, since the time that
reading takes grows with the square of their number.
-/

namespace UiHarness

/-- The greatest number of digits of an integer in decimal. -/
def digitLimit : Nat := 4300

/-- The wording for an integer of too many digits. -/
def digitLimitMessage (digits : Nat) : Text :=
  "Exceeds the limit (" ++ Text.ofNat digitLimit ++
    " digits) for integer string conversion: value has " ++ Text.ofNat digits ++
    " digits; use sys.set_int_max_str_digits() to increase the limit"

end UiHarness
