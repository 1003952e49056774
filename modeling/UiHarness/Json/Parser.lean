import UiHarness.Number.Limit
import UiHarness.Value

/-!
# Reading JSON

JSON text is read into a value, or refused with the place and the cause of the first failure.
Besides JSON proper the three names of numbers that JSON lacks are read.  Of two entries of a table
with one key the later value counts, in the place of the earlier.

A failure carries what is left of the text at its place; the position, the line and the column
follow from it.  Two limits have causes of their own: integers of more than 4300 digits, and
members inside members beyond a fixed depth.
-/

namespace UiHarness.Json

/-! ## 1.  Failures -/

/-- What was wrong with a text. -/
inductive Defect
  | byteOrderMark
  | value
  | propertyName
  | colon
  | comma
  | control
  | openString
  | badEscape
  | badUnicodeEscape
  | extra
  deriving DecidableEq, Repr

/-- The wording of a defect. -/
def Defect.message : Defect → Text
  | byteOrderMark => "Unexpected UTF-8 BOM (decode using utf-8-sig)"
  | value => "Expecting value"
  | propertyName => "Expecting property name enclosed in double quotes"
  | colon => "Expecting ':' delimiter"
  | comma => "Expecting ',' delimiter"
  | control => "Invalid control character at"
  | openString => "Unterminated string starting at"
  | badEscape => "Invalid \\escape"
  | badUnicodeEscape => "Invalid \\uXXXX escape"
  | extra => "Extra data"

/-- Why a text was refused. -/
inductive Failure
  /-- A defect, and what is left of the text where it was found. -/
  | defect (d : Defect) (rest : Text)
  /-- An integer of so many digits. -/
  | longInteger (digits : Nat)
  /-- Too many members inside each other. -/
  | tooDeep
  deriving DecidableEq, Repr

/-- The greatest depth of members inside members. -/
def depthLimit : Nat := 985

/-- The wording of a failure in a text. -/
def Failure.message (whole : Text) : Failure → Text
  | defect d rest =>
    let position := whole.length - rest.length
    let before := whole.take position
    let column := (before.reverse.takeWhile (· ≠ '\n')).length + 1
    d.message ++ ": line " ++ Text.ofNat (before.count '\n' + 1) ++ " column " ++
      Text.ofNat column ++ " (char " ++ Text.ofNat position ++ [')']
  | longInteger digits => digitLimitMessage digits
  | tooDeep => "maximum recursion depth exceeded while decoding a JSON object from a unicode string"

/-- What was read and what is left of the text. -/
abbrev Reader (α : Type) := Text → Except Failure (α × Text)

/-! ## 2.  Blanks and atoms -/

/-- Whether a character is a blank of JSON. -/
def isBlank (c : Char) : Bool := c = ' ' || c = '\t' || c = '\n' || c = '\r'

/-- What is left behind blanks. -/
def skip (t : Text) : Text := t.dropWhile isBlank

/-- Four hexadecimal digits. -/
def fourHex? : Text → Option (Nat × Text)
  | a :: b :: c :: d :: t =>
    if [a, b, c, d].all Text.isHexDigit then some (Text.ofHexDigits [a, b, c, d], t) else none
  | _ => none

/-- The character behind a backslash that stands for another one. -/
def shortEscape? : Char → Option Char
  | '"' => some '"'
  | '\\' => some '\\'
  | '/' => some '/'
  | 'b' => some '\x08'
  | 'f' => some '\x0c'
  | 'n' => some '\n'
  | 'r' => some '\r'
  | 't' => some '\t'
  | _ => none

/-- The second unit of a pair, behind the first one. -/
def lowUnit? : Text → Option (Nat × Text)
  | '\\' :: 'u' :: t =>
    match fourHex? t with
    | some (n, r) => if 0xDC00 ≤ n ∧ n < 0xE000 ∧ !r.isEmpty then some (n, r) else none
    | none => none
  | _ => none

/-- A character that is written by its units, from the `u` on. -/
def unicodeEscape (u : Text) : Except Failure (Char × Text) :=
  match fourHex? (u.drop 1) with
  | none => .error (.defect .badUnicodeEscape u)
  | some (n, r) =>
    if r.isEmpty then .error (.defect .badUnicodeEscape u)
    else if 0xD800 ≤ n ∧ n < 0xDC00 then
      match lowUnit? r with
      | some (low, r) => .ok (Char.ofNat (0x10000 + (n - 0xD800) * 0x400 + (low - 0xDC00)), r)
      | none => .ok ('\ufffd', r)
    else if 0xDC00 ≤ n ∧ n < 0xE000 then .ok ('\ufffd', r)
    else .ok (Char.ofNat n, r)

/-- The rest of a string behind its opening quote, in at most `n` steps; `start` is the text from
that quote on. -/
def stringTail (start : Text) : Nat → Reader Text
  | 0, _ => .error (.defect .openString start)
  | n + 1, t =>
    match t with
    | [] => .error (.defect .openString start)
    | '"' :: r => .ok ([], r)
    | ['\\'] => .error (.defect .openString start)
    | '\\' :: 'u' :: r => do
      let (c, r) ← unicodeEscape ('u' :: r)
      let (cs, r) ← stringTail start n r
      .ok (c :: cs, r)
    | '\\' :: e :: r =>
      match shortEscape? e with
      | none => .error (.defect .badEscape t)
      | some c => do
        let (cs, r) ← stringTail start n r
        .ok (c :: cs, r)
    | c :: r =>
      if c.toNat < 0x20 then .error (.defect .control t)
      else do
        let (cs, r) ← stringTail start n r
        .ok (c :: cs, r)

/-- A string from its opening quote on. -/
def string : Reader Text := fun t => stringTail t t.length (t.drop 1)

/-- Digits, at least one of them. -/
def digits? (t : Text) : Option (Text × Text) :=
  match t.span Text.isDigitAscii with
  | ([], _) => none
  | found => some found

/-- The whole part of a number: no zero stands in front of other digits. -/
def whole? : Text → Option (Text × Text)
  | '0' :: t => some (['0'], t)
  | t => digits? t

/-- The digits behind a point. -/
def fraction (t : Text) : Option Text × Text :=
  match t with
  | '.' :: r =>
    match digits? r with
    | some (ds, r) => (some ds, r)
    | none => (none, t)
  | _ => (none, t)

/-- The exponent of a number. -/
def exponent (t : Text) : Option Int × Text :=
  match t with
  | e :: r =>
    if e = 'e' ∨ e = 'E' then
      let (negative, r) : Bool × Text :=
        match r with
        | '-' :: r => (true, r)
        | '+' :: r => (false, r)
        | _ => (false, r)
      match digits? r with
      | some (ds, r) =>
        let n : Int := Text.ofDigits ds
        (some (if negative then -n else n), r)
      | none => (none, t)
    else (none, t)
  | [] => (none, t)

/-- A number.  It is an integer if it has neither a point nor an exponent. -/
def number : Reader Value := fun t =>
  let (negative, r) : Bool × Text :=
    match t with
    | '-' :: r => (true, r)
    | _ => (false, t)
  match whole? r with
  | none => .error (.defect .value t)
  | some (ds, r) =>
    let (behind, r) := fraction r
    let (power, r) := exponent r
    match behind, power with
    | none, none =>
      if digitLimit < ds.length then .error (.longInteger ds.length)
      else
        let n : Int := Text.ofDigits ds
        .ok (.int (if negative then -n else n), r)
    | _, _ =>
      let more := behind.getD []
      .ok (.float (.ofDecimal negative (Text.ofDigits (ds ++ more)) (power.getD 0 - more.length)),
        r)

/-- Values that are written as words. -/
def words : List (String × Value) :=
  [("null", .null), ("true", .bool true), ("false", .bool false), ("NaN", .float .nan),
    ("Infinity", .float (.infinite false)), ("-Infinity", .float (.infinite true))]

/-- A value that is written as a word. -/
def word? (t : Text) : Option (Value × Text) :=
  words.findSome? fun (w, v) => (Text.after? w t).map fun r => (v, r)

/-! ## 3.  Values -/

mutual

/-- A value, with at most `depth` members inside each other and in at most `n` steps. -/
def value (depth : Nat) : Nat → Reader Value
  | 0, t => .error (.defect .value t)
  | n + 1, t =>
    match t with
    | '"' :: _ => do
      let (s, r) ← string t
      .ok (.text s, r)
    | '[' :: r =>
      match depth with
      | 0 => .error .tooDeep
      | depth + 1 =>
        match skip r with
        | ']' :: r => .ok (.list [], r)
        | r => do
          let (vs, r) ← members depth n r
          .ok (.list vs, r)
    | '\x7b' :: r =>
      match depth with
      | 0 => .error .tooDeep
      | depth + 1 =>
        match skip r with
        | '\x7d' :: r => .ok (.table [], r)
        | r => do
          let (es, r) ← entries depth n r
          .ok (.table (Table.ofList es).entries, r)
    | _ =>
      match word? t with
      | some found => .ok found
      | none => number t

/-- The members of a list up to its end. -/
def members (depth : Nat) : Nat → Reader (List Value)
  | 0, t => .error (.defect .value t)
  | n + 1, t => do
    let (v, r) ← value depth n t
    match skip r with
    | ']' :: r => .ok ([v], r)
    | ',' :: r =>
      let (vs, r) ← members depth n (skip r)
      .ok (v :: vs, r)
    | r => .error (.defect .comma r)

/-- The entries of a table up to its end. -/
def entries (depth : Nat) : Nat → Reader (List (Text × Value))
  | 0, t => .error (.defect .value t)
  | n + 1, t =>
    match t with
    | '"' :: _ => do
      let (key, r) ← string t
      match skip r with
      | ':' :: r =>
        let (v, r) ← value depth n (skip r)
        match skip r with
        | '\x7d' :: r => .ok ([(key, v)], r)
        | ',' :: r =>
          let (es, r) ← entries depth n (skip r)
          .ok ((key, v) :: es, r)
        | r => .error (.defect .comma r)
      | r => .error (.defect .colon r)
    | _ => .error (.defect .propertyName t)

end

/-- The value of a JSON text. -/
def parse (t : Text) : Except Failure Value :=
  match t with
  | '\ufeff' :: _ => .error (.defect .byteOrderMark t)
  | _ => do
    let (v, r) ← value depthLimit (2 * t.length + 2) (skip t)
    match skip r with
    | [] => .ok v
    | r => .error (.defect .extra r)

end UiHarness.Json
