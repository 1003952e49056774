import UiHarness.Toml.Reader

/-!
# Reading TOML: strings and keys

A string stands between quotes or apostrophes, single ones in a line or triple ones over several
lines.  Between quotes a backslash begins an escape; over several lines it also takes away the line
end and the blanks behind it.  Right before triple marks up to two more of them belong to the
string.  A key is a row of names with dots between; a name needs no marks if it has only letters
and digits of ASCII, hyphens and underscores.
-/

namespace UiHarness.Toml

/-! ## 1.  Escapes -/

/-- The character behind a backslash that stands for another one. -/
def escapeOf? : Char → Option Char
  | 'b' => some '\x08'
  | 't' => some '\t'
  | 'n' => some '\n'
  | 'f' => some '\x0c'
  | 'r' => some '\r'
  | '"' => some '"'
  | '\\' => some '\\'
  | _ => none

/-- The character of a number in so many hexadecimal digits. -/
def numbered (digits : Nat) : Reader Char := fun t =>
  let code := t.take digits
  let n := Text.ofHexDigits code
  if code.length = digits && code.all Text.isHexDigit && n.isValidChar then
    .ok (Char.ofNat n, t.drop digits)
  else .error .malformed

/-- What an escape stands for, from behind its backslash on. -/
def escape (overLines : Bool) : Reader Text
  | [] => .error .malformed
  | c :: r =>
    if overLines && (isBlank c || c = '\n') then
      match skipBlanks (c :: r) with
      | [] => .ok ([], [])
      | '\n' :: r => .ok ([], r.dropWhile fun c => isBlank c || c = '\n')
      | _ => .error .malformed
    else if c = 'u' then do
      let (x, r) ← numbered 4 r
      .ok ([x], r)
    else if c = 'U' then do
      let (x, r) ← numbered 8 r
      .ok ([x], r)
    else
      match escapeOf? c with
      | some x => .ok ([x], r)
      | none => .error .malformed

/-! ## 2.  Strings -/

/-- The mark of strings over several lines. -/
def triple (c : Char) : Text := [c, c, c]

/-- The rest of a string in quotes, in at most `n` steps. -/
def quotedTail (overLines : Bool) : Nat → Reader Text
  | 0, _ => .error .malformed
  | _, [] => .error .malformed
  | n + 1, c :: r =>
    if c = '"' then
      if overLines then
        match Text.after? (triple '"') (c :: r) with
        | some r => .ok ([], r)
        | none => do
          let (s, r) ← quotedTail overLines n r
          .ok (c :: s, r)
      else .ok ([], r)
    else if c = '\\' then do
      let (x, r) ← escape overLines r
      let (s, r) ← quotedTail overLines n r
      .ok (x ++ s, r)
    else if isControl c && !(overLines && c = '\n') then .error .malformed
    else do
      let (s, r) ← quotedTail overLines n r
      .ok (c :: s, r)

/-- A string in quotes in a line, from behind its first quote on. -/
def quoted : Reader Text := fun t => quotedTail false (t.length + 1) t

/-- A string in apostrophes in a line, from behind the first one on. -/
def literal : Reader Text := fun t =>
  match t.span (· ≠ '\'') with
  | (s, _ :: r) => if s.any isControl then .error .malformed else .ok (s, r)
  | _ => .error .malformed

/-- Up to two more marks that belong to a string over several lines. -/
def moreMarks (mark : Char) (s r : Text) : Text × Text :=
  let more := (r.take 2).takeWhile (· = mark)
  (s ++ more, r.drop more.length)

/-- Without a line end at its front. -/
def withoutLineEnd : Text → Text
  | '\n' :: t => t
  | t => t

/-- A string in quotes over several lines, from behind its first marks on. -/
def quotedLines : Reader Text := fun t => do
  let t := withoutLineEnd t
  let (s, r) ← quotedTail true (t.length + 1) t
  .ok (moreMarks '"' s r)

/-- A string in apostrophes over several lines, from behind its first marks on. -/
def literalLines : Reader Text := fun t =>
  match Text.cut? (triple '\'') (withoutLineEnd t) with
  | some (s, r) =>
    if s.any fun c => isControl c && c ≠ '\n' then .error .malformed
    else .ok (moreMarks '\'' s r)
  | none => .error .malformed

/-! ## 3.  Keys -/

/-- A key: names that lead into tables. -/
abbrev Key := List Text

/-- Whether a character may stand in a name without marks. -/
def isBare (c : Char) : Bool :=
  Text.isUpperAscii c || Text.isLowerAscii c || Text.isDigitAscii c || c = '-' || c = '_'

/-- A name in a key. -/
def name : Reader Text
  | [] => .error .malformed
  | c :: r =>
    if c = '"' then quoted r
    else if c = '\'' then literal r
    else if isBare c then .ok ((c :: r).span isBare)
    else .error .malformed

/-- The names of a key and the blanks behind it, in at most `n` steps. -/
def keyWithin : Nat → Reader Key
  | 0, _ => .error .malformed
  | n + 1, t => do
    let (first, r) ← name t
    match skipBlanks r with
    | '.' :: r =>
      let (rest, r) ← keyWithin n (skipBlanks r)
      .ok (first :: rest, r)
    | r => .ok ([first], r)

/-- A key and the blanks behind it. -/
def key : Reader Key := fun t => keyWithin (t.length + 1) t

end UiHarness.Toml
