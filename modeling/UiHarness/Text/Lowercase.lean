import UiHarness.Text.CaseTable

/-!
# Lower case

Lower case as Unicode defines it.  Each character goes to its lower-case partner, with two rules
of their own: the dotted capital I becomes two characters, and a capital sigma at the end of a
word becomes the final sigma.  A sigma is final if, the ignorable characters passed over, a cased
character stands before it and none behind it.
-/

namespace UiHarness.Text

/-- The lower-case partner of a code point in a list of runs; a code point in no run is its own. -/
def lowerIn (n : Nat) : List (Nat × Nat × Nat × Int) → Nat
  | [] => n
  | (lo, hi, step, distance) :: rest =>
    if n < lo then n
    else if n ≤ hi ∧ (n - lo) % step = 0 then (n + distance).toNat
    else lowerIn n rest

/-- Whether a character is passed over when the neighbourhood of a letter is looked at. -/
def isIgnorable (c : Char) : Bool := inRanges c.toNat ignorableRanges

/-- Whether a character is cased. -/
def isCased (c : Char) : Bool := inRanges c.toNat casedRanges

/-- Whether the first character of a text that is not passed over is cased. -/
def meetsCased (t : Text) : Bool :=
  match t.dropWhile isIgnorable with
  | [] => false
  | c :: _ => isCased c

/-- The lower case of one character between the text before it, reversed, and the text behind
it. -/
def lowerChar (before : Text) (c : Char) (behind : Text) : Text :=
  if c = '\u0130' then ['i', '\u0307']
  else if c = '\u03A3' then
    if meetsCased before && !meetsCased behind then ['\u03C2'] else ['\u03C3']
  else if c.toNat < 128 then [c.toLower]
  else [Char.ofNat (lowerIn c.toNat lowerRuns)]

/-- The lower case of a text behind the given text, which is reversed. -/
def lowerFrom (before : Text) : Text → Text
  | [] => []
  | c :: t => lowerChar before c t ++ lowerFrom (c :: before) t

/-- The lower case of a text. -/
def lower (t : Text) : Text := lowerFrom [] t

end UiHarness.Text
