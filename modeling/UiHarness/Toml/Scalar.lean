import UiHarness.Number.Limit
import UiHarness.Toml.Reader
import UiHarness.Value

/-!
# Reading TOML: numbers and moments

An integer is written in decimal, or with a mark in hexadecimal, octal or binary; a floating point
number has a point or an exponent, or is one of the words for what is no finite number.  Single
underscores may stand between digits.  A moment is a date, a time, or both, perhaps with the
distance from universal time.
-/

namespace UiHarness.Toml

/-! ## 1.  Digits -/

/-- Further digits, with single underscores between. -/
def moreDigits (isDigit : Char → Bool) : Text → Text × Text
  | '_' :: c :: r =>
    if isDigit c then
      let (ds, r) := moreDigits isDigit r
      (c :: ds, r)
    else ([], '_' :: c :: r)
  | c :: r =>
    if isDigit c then
      let (ds, r) := moreDigits isDigit r
      (c :: ds, r)
    else ([], c :: r)
  | [] => ([], [])

/-- Digits, with single underscores between. -/
def digits? (isDigit : Char → Bool) : Text → Option (Text × Text)
  | c :: r =>
    if isDigit c then
      let (ds, r) := moreDigits isDigit r
      some (c :: ds, r)
    else none
  | [] => none

/-- Exactly so many decimal digits, as a number. -/
def exactly? (n : Nat) (t : Text) : Option (Nat × Text) :=
  let ds := t.take n
  if ds.length = n && ds.all Text.isDigitAscii then some (Text.ofDigits ds, t.drop n) else none

/-! ## 2.  Numbers -/

/-- An integer in a base that is marked. -/
def based? (t : Text) : Option (Value × Text) :=
  let read (mark : Text) (isDigit : Char → Bool) (base : Nat) : Option (Value × Text) := do
    let (ds, r) ← digits? isDigit (← Text.after? mark t)
    some (.int (ds.foldl (fun n c => base * n + Text.hexValue c) 0), r)
  (read "0x" Text.isHexDigit 16).or <|
    (read "0b" (fun c => c = '0' || c = '1') 2).or <|
      read "0o" (fun c => '0' ≤ c && c ≤ '7') 8

/-- A sign, if there is one: whether it is a minus. -/
def sign (t : Text) : Bool × Text :=
  match t with
  | '-' :: r => (true, r)
  | '+' :: r => (false, r)
  | _ => (false, t)

/-- The whole part of a number: a zero, or digits that do not begin with one. -/
def whole? : Text → Option (Text × Text)
  | '0' :: r => some (['0'], r)
  | t => digits? Text.isDigitAscii t

/-- The digits behind a point. -/
def fraction (t : Text) : Option Text × Text :=
  match t with
  | '.' :: r =>
    match digits? Text.isDigitAscii r with
    | some (ds, r) => (some ds, r)
    | none => (none, t)
  | _ => (none, t)

/-- An exponent. -/
def exponent (t : Text) : Option Int × Text :=
  match t with
  | c :: r =>
    if c = 'e' || c = 'E' then
      let (negative, r) := sign r
      match digits? Text.isDigitAscii r with
      | some (ds, r) =>
        let n : Int := Text.ofDigits ds
        (some (if negative then -n else n), r)
      | none => (none, t)
    else (none, t)
  | [] => (none, t)

/-- A number in decimal. -/
def decimal? (t : Text) : Option (Except Failure (Value × Text)) := do
  let (negative, r) := sign t
  let (ds, r) ← whole? r
  let (behind, r) := fraction r
  let (power, r) := exponent r
  match behind, power with
  | none, none =>
    if digitLimit < ds.length then some (.error (.longInteger ds.length))
    else
      let n : Int := Text.ofDigits ds
      some (.ok (.int (if negative then -n else n), r))
  | _, _ =>
    let more := behind.getD []
    some (.ok (.float (.ofDecimal negative (Text.ofDigits (ds ++ more))
      (power.getD 0 - more.length)), r))

/-- A word for what is no finite number. -/
def unusual? (t : Text) : Option (Value × Text) :=
  let (negative, r) := sign t
  match Text.after? "inf" r with
  | some r => some (.float (.infinite negative), r)
  | none => (Text.after? "nan" r).map fun r => (.float .nan, r)

/-! ## 3.  Moments -/

/-- A number of exactly two digits in a range. -/
def two? (low high : Nat) (t : Text) : Option (Nat × Text) := do
  let (n, r) ← exactly? 2 t
  if low ≤ n && n ≤ high then some (n, r) else none

/-- A number in decimal with at least so many digits. -/
def padded (width n : Nat) : Text :=
  let ds := Text.ofNat n
  List.replicate (width - ds.length) '0' ++ ds

/-- The digits behind the point of a second, as far as they count. -/
def secondFraction (t : Text) : Text × Text :=
  match t with
  | '.' :: r =>
    match r.span Text.isDigitAscii with
    | ([], _) => ([], t)
    | (ds, r) =>
      let six := ds.take 6 ++ List.replicate (6 - ds.length) '0'
      (if six.all (· = '0') then [] else '.' :: six, r)
  | _ => ([], t)

/-- A time of day. -/
def time? (t : Text) : Option (Text × Text) := do
  let (hour, r) ← two? 0 23 t
  let (minute, r) ← two? 0 59 (← Text.after? [':'] r)
  let (second, r) ← two? 0 59 (← Text.after? [':'] r)
  let (more, r) := secondFraction r
  some (padded 2 hour ++ ':' :: padded 2 minute ++ ':' :: padded 2 second ++ more, r)

/-- The distance of a time from universal time, if it is given. -/
def distance (t : Text) : Text × Text :=
  let away (mark : Char) (r : Text) : Option (Text × Text) := do
    let (hour, r) ← two? 0 23 r
    let (minute, r) ← two? 0 59 (← Text.after? [':'] r)
    let mark := if hour = 0 && minute = 0 then '+' else mark
    some (mark :: padded 2 hour ++ ':' :: padded 2 minute, r)
  match t with
  | 'Z' :: r => ("+00:00", r)
  | 'z' :: r => ("+00:00", r)
  | '+' :: r => (away '+' r).getD ([], t)
  | '-' :: r => (away '-' r).getD ([], t)
  | _ => ([], t)

/-- Whether a year has a day more. -/
def isLeap (year : Nat) : Bool := year % 4 = 0 && (year % 100 ≠ 0 || year % 400 = 0)

/-- The number of days in a month. -/
def daysIn (year month : Nat) : Nat :=
  if month = 2 then if isLeap year then 29 else 28
  else if month = 4 || month = 6 || month = 9 || month = 11 then 30
  else 31

/-- A date: whether there is one of that number, its text, and the rest. -/
def date? (t : Text) : Option (Bool × Text × Text) := do
  let (year, r) ← exactly? 4 t
  let (month, r) ← two? 1 12 (← Text.after? ['-'] r)
  let (day, r) ← two? 1 31 (← Text.after? ['-'] r)
  some (0 < year && day ≤ daysIn year month,
    padded 4 year ++ '-' :: padded 2 month ++ '-' :: padded 2 day, r)

/-- A time behind a date. -/
def timeBehind? (t : Text) : Option (Text × Text) :=
  match t with
  | c :: r => if c = 'T' || c = 't' || c = ' ' then time? r else none
  | [] => none

/-- A moment. -/
def moment? (t : Text) : Option (Except Failure (Value × Text)) :=
  match date? t with
  | some (isDate, date, r) =>
    if isDate then
      match timeBehind? r with
      | some (time, r) =>
        let (away, r) := distance r
        some (.ok (.moment .dateTime (date ++ ' ' :: time ++ away), r))
      | none => some (.ok (.moment .date date, r))
    else some (.error .malformed)
  | none => (time? t).map fun (time, r) => .ok (.moment .time time, r)

/-- A number or a moment. -/
def scalar : Reader Value := fun t =>
  match moment? t with
  | some result => result
  | none =>
    match based? t with
    | some found => .ok found
    | none =>
      match decimal? t with
      | some result => result
      | none =>
        match unusual? t with
        | some found => .ok found
        | none => .error .malformed

end UiHarness.Toml
