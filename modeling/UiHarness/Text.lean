/-!
# Text

Text is the list of its characters.  Every rule of this library that looks at text -- a pattern
that is searched, a grammar, a quoting -- walks along it from left to right, and a list is the
data along which such a rule recurses, so the rules are plain structural recursions and their
laws plain inductions.  Literals are written as strings and coerced.

* `Text.after?`: what follows a given beginning.
* `Text.cut`: the text before and after the first occurrence of a pattern.
* `Text.splitAt`: the pieces between the occurrences of a character.
* `Text.replaceAll`: the leftmost occurrences of a pattern, replaced.
* `Text.findAll`, `Text.findFirst?`: all matches of a recogniser, from left to right.
* `Text.substituteAll`: a text with all matches of a recogniser replaced.
* `Text.byteSize`: the length in the bytes of UTF-8.
-/

namespace UiHarness

/-- A text is the list of its characters. -/
abbrev Text := List Char

instance : Coe String Text := ⟨String.toList⟩

/-- Texts are compared by what they are, so whether one is among others is decided by it. -/
instance lawfulBEqText : LawfulBEq Text := inferInstance

namespace Text

/-! ## 1.  Beginnings and ends -/

/-- The rest of a text after the beginning `p`, if it begins with `p`. -/
def after? : (p t : Text) → Option Text
  | [], t => some t
  | _ :: _, [] => none
  | a :: p, b :: t => if a = b then after? p t else none

/-- What `after?` leaves is exactly what the beginning lacks. -/
theorem append_of_after? : ∀ {p t r : Text}, after? p t = some r → p ++ r = t
  | [], t, r, h => by
    simp only [after?, Option.some.injEq] at h
    simp [h]
  | a :: p, [], r, h => by simp [after?] at h
  | a :: p, b :: t, r, h => by
    by_cases hab : a = b
    · simp only [after?, hab, if_true] at h
      simp [hab, append_of_after? h]
    · simp [after?, hab] at h

theorem after?_append (p r : Text) : after? p (p ++ r) = some r := by
  induction p with
  | nil => rfl
  | cons a p ih => simp [after?, ih]

/-- The two parts of a text, of which the first one is collected backwards, make up the text. -/
theorem spanLoop_append (p : Char → Bool) (t acc : Text) :
    (List.span.loop p t acc).1 ++ (List.span.loop p t acc).2 = acc.reverse ++ t := by
  induction t generalizing acc with
  | nil => exact rfl
  | cons c t ih =>
    have step : List.span.loop p (c :: t) acc =
        match p c with
        | true => List.span.loop p t (c :: acc)
        | false => (acc.reverse, c :: t) := rfl
    rw [step]
    cases p c with
    | true =>
      simp only [ih, List.reverse_cons, List.append_assoc, List.cons_append, List.nil_append]
    | false => rfl

/-- Where a text is cut behind its longest beginning in a class, nothing is lost. -/
theorem span_append (p : Char → Bool) (t : Text) : (t.span p).1 ++ (t.span p).2 = t :=
  spanLoop_append p t []

theorem append_of_span {p : Char → Bool} {t a b : Text} (h : t.span p = (a, b)) : a ++ b = t := by
  have := span_append p t
  rwa [h] at this

/-- Whether a text begins with `p`. -/
def startsWith (t p : Text) : Bool := p.isPrefixOf t

/-- Whether a text ends with `p`. -/
def endsWith (t p : Text) : Bool := p.isSuffixOf t

/-- Whether `p` occurs somewhere in a text. -/
def contains : (t p : Text) → Bool
  | [], p => p.isEmpty
  | c :: t, p => p.isPrefixOf (c :: t) || contains t p

/-- Drops what `p` accepts at the end. -/
def dropEndWhile (p : Char → Bool) (t : Text) : Text := (t.reverse.dropWhile p).reverse

/-- Drops what `p` accepts at both ends. -/
def trimWhile (p : Char → Bool) (t : Text) : Text := dropEndWhile p (t.dropWhile p)

/-! ## 2.  Cutting and replacing -/

/-- The text before and after the first occurrence of `p`, if it occurs. -/
def cut? (p : Text) : Text → Option (Text × Text)
  | [] => if p.isEmpty then some ([], []) else none
  | c :: t =>
    match after? p (c :: t) with
    | some r => some ([], r)
    | none => (cut? p t).map fun (a, b) => (c :: a, b)

/-- The pieces between the occurrences of the character `sep`; always at least one. -/
def splitAt (sep : Char) : Text → List Text
  | [] => [[]]
  | c :: t =>
    if c = sep then [] :: splitAt sep t
    else
      match splitAt sep t with
      | [] => [[c]]
      | piece :: pieces => (c :: piece) :: pieces

/-- Joins pieces with a separator between neighbours. -/
def join (sep : Text) (pieces : List Text) : Text := sep.intercalate pieces

/-- Replaces the leftmost disjoint occurrences of a nonempty pattern.  The counter says how many
characters of the current occurrence are still to be passed over. -/
def replaceFrom (p new : Text) : Nat → Text → Text
  | _, [] => []
  | skip + 1, _ :: t => replaceFrom p new skip t
  | 0, c :: t =>
    if p.isPrefixOf (c :: t) then new ++ replaceFrom p new (p.length - 1) t
    else c :: replaceFrom p new 0 t

/-- Replaces every leftmost disjoint occurrence of the pattern `p`; an empty pattern occurs
nowhere. -/
def replaceAll (t p new : Text) : Text := if p.isEmpty then t else replaceFrom p new 0 t

/-! ## 3.  Searching

A recogniser reads a match from the front of a text and says what it found and what is left.
Searching tries it at each place from left to right; after a match the search goes on behind it. -/

/-- The first match of a recogniser, with the text behind it. -/
def findFirst? {α : Type} (p : Text → Option (α × Text)) : Text → Option (α × Text)
  | [] => p []
  | c :: t =>
    match p (c :: t) with
    | some found => some found
    | none => findFirst? p t

/-- The matches of a recogniser in the first `n` places to look at. -/
def findWithin {α : Type} (p : Text → Option (α × Text)) : Nat → Text → List α
  | 0, _ => []
  | n + 1, t =>
    match findFirst? p t with
    | some (found, rest) => found :: findWithin p n rest
    | none => []

/-- All disjoint matches of a recogniser that consumes something, from left to right.  A text has
no more of them than characters, so its length is enough. -/
def findAll {α : Type} (p : Text → Option (α × Text)) (t : Text) : List α :=
  findWithin p t.length t

/-- Replaces the matches of a recogniser in the first `n` places to look at.  The recogniser says
what stands in place of a match. -/
def substituteWithin (p : Text → Option (Text × Text)) : Nat → Text → Text
  | 0, t => t
  | _, [] => []
  | n + 1, c :: t =>
    match p (c :: t) with
    | some (new, rest) => new ++ substituteWithin p n rest
    | none => c :: substituteWithin p n t

/-- Replaces all disjoint matches of a recogniser that consumes something, from left to right. -/
def substituteAll (p : Text → Option (Text × Text)) (t : Text) : Text :=
  substituteWithin p t.length t

/-! ## 4.  Numbers and sizes -/

/-- The decimal digits of a natural number. -/
def ofNat (n : Nat) : Text := Nat.toDigits 10 n

/-- An integer in decimal, with a minus sign if it is negative. -/
def ofInt : Int → Text
  | .ofNat n => ofNat n
  | .negSucc n => '-' :: ofNat (n + 1)

/-- The number of bytes of a text in UTF-8. -/
def byteSize : Text → Nat
  | [] => 0
  | c :: t => c.utf8Size + byteSize t

@[simp] theorem byteSize_nil : byteSize [] = 0 := rfl

@[simp] theorem byteSize_cons (c : Char) (t : Text) :
    byteSize (c :: t) = c.utf8Size + byteSize t := rfl

@[simp] theorem byteSize_append (s t : Text) : byteSize (s ++ t) = byteSize s + byteSize t := by
  induction s with
  | nil => simp
  | cons c s ih => simp [ih, Nat.add_assoc]

/-- Whether a character is an ASCII upper-case letter. -/
def isUpperAscii (c : Char) : Bool := 'A' ≤ c && c ≤ 'Z'

/-- Whether a character is an ASCII lower-case letter. -/
def isLowerAscii (c : Char) : Bool := 'a' ≤ c && c ≤ 'z'

/-- Whether a character is an ASCII digit. -/
def isDigitAscii (c : Char) : Bool := '0' ≤ c && c ≤ '9'

/-- Whether a character is a hexadecimal digit. -/
def isHexDigit (c : Char) : Bool :=
  isDigitAscii c || ('a' ≤ c && c ≤ 'f') || ('A' ≤ c && c ≤ 'F')

/-- The value of a hexadecimal digit; zero for any other character. -/
def hexValue (c : Char) : Nat :=
  if isDigitAscii c then c.toNat - '0'.toNat
  else if 'a' ≤ c && c ≤ 'f' then c.toNat - 'a'.toNat + 10
  else if 'A' ≤ c && c ≤ 'F' then c.toNat - 'A'.toNat + 10
  else 0

/-- The value of a run of hexadecimal digits. -/
def ofHexDigits (t : Text) : Nat := t.foldl (fun n c => 16 * n + hexValue c) 0

/-- The value of a run of decimal digits. -/
def ofDigits (t : Text) : Nat := t.foldl (fun n c => 10 * n + (c.toNat - '0'.toNat)) 0

end Text

end UiHarness
