import UiHarness.Syntax.Lexer
import UiHarness.Text.Word

/-!
# Tokens that depend on what stands around them

A statement may end without a semicolon: at the end of the file or of a block, or where a line ends
and what comes next cannot go on with the statement.  The text of a template and of markup runs up
to the next sign that means something in it.  A question mark asks only if it does not belong to a
chain or to an optional name.  A line that begins with `<!--` or `-->` is a comment.

* `Expected`: which of these tokens may come next.
* `Layout.scan?`: reads one of them.
-/

namespace UiHarness.Syntax

/-- Which of the tokens that depend on what stands around them may come next, and three other
tokens that tell what is being read. -/
structure Expected where
  /-- The end of a statement. -/
  lineEnd : Bool := false
  /-- The end of a function that has no body. -/
  signatureEnd : Bool := false
  /-- The text of a template. -/
  template : Bool := false
  /-- A question mark. -/
  question : Bool := false
  /-- A line comment of markup. -/
  comment : Bool := false
  /-- The text of markup. -/
  markupText : Bool := false
  /-- The sign `||`, which tells an expression from a type. -/
  disjunction : Bool := false
  /-- An escape in a string. -/
  escape : Bool := false
  /-- A regular expression. -/
  expression : Bool := false
  deriving DecidableEq, Repr

namespace Expected

/-- Whether none of these tokens may come next. -/
def isEmpty (e : Expected) : Bool := e = {}

end Expected

namespace Layout

/-! ## 1.  Characters -/

/-- Whether a character is white, and may be broken at. -/
def isWhite (c : Char) : Bool :=
  let n := c.toNat
  (9 ≤ n && n ≤ 13) || n = 32 || n = 0x1680 || (0x2000 ≤ n && n ≤ 0x2006) ||
    (0x2008 ≤ n && n ≤ 0x200A) || n = 0x2028 || n = 0x2029 || n = 0x205F || n = 0x3000

/-- Whether a character is a letter, or a digit other than the ten common ones. -/
def isAlphabetic (c : Char) : Bool :=
  isLetter c || (128 ≤ c.toNat && Text.isWord c)

/-- The next character, or the null character at the end. -/
def peek : Text → Char
  | [] => '\x00'
  | c :: _ => c

/-- What is left behind the rest of a line. -/
def skipLine (t : Text) : Text := t.dropWhile fun c => c ≠ '\x00' && !isLineBreak c

/-- What is left behind a comment that was opened, and whether it was closed. -/
def skipComment : Text → Text × Bool
  | [] => ([], false)
  | '*' :: '/' :: t => (t, true)
  | c :: t => if c = '\x00' then (c :: t, false) else skipComment t

/-! ## 2.  The end of a statement -/

/-- What was found where a statement might end. -/
structure Verdict where
  /-- Whether it ends. -/
  ends : Bool
  /-- Whether comments were passed. -/
  commented : Bool
  /-- Where looking stopped. -/
  rest : Text

/-- What is left behind blanks and comments, at most `n` of them, whether there were comments, and
whether a slash was met that begins none. -/
def skipBlanks : Nat → Bool → Text → Text × Bool × Bool
  | 0, commented, t => (t, commented, false)
  | n + 1, commented, t =>
    match t.dropWhile isWhite with
    | '/' :: '/' :: r => skipBlanks n true (skipLine r)
    | '/' :: '*' :: r =>
      let (r, closed) := skipComment r
      skipBlanks n (commented || closed) r
    | '/' :: r => (r, commented, true)
    | r => (r, commented, false)

/-- What stands on the next line decides whether a statement ends on this one. -/
def beforeNextLine (e : Expected) (commented : Bool) (t : Text) : Verdict :=
  match t with
  | '+' :: r => ⟨peek r = '+', commented, r⟩
  | '-' :: r => ⟨peek r = '-', commented, r⟩
  | '!' :: r => ⟨peek r ≠ '=', commented, r⟩
  | 'i' :: 'n' :: r =>
    if isAlphabetic (peek r) then
      match Text.after? "stanceof" r with
      | some r => ⟨isAlphabetic (peek r), commented, r⟩
      | none => ⟨true, commented, r⟩
    else ⟨false, commented, r⟩
  | _ =>
    let c := peek t
    let continues :=
      ['\x60', ',', '.', ';', '*', '%', '>', '<', '=', '?', '^', '|', '&', '/', ':'].contains c ||
        (c = '\x7b' && e.signatureEnd) || ((c = '(' || c = '[') && e.disjunction)
    ⟨!continues, commented, t⟩

/-- Whether a statement ends here. -/
def lineEnd (e : Expected) : Text → Verdict
  | [] => ⟨true, false, []⟩
  | '\n' :: t =>
    match skipBlanks (t.length + 1) false t with
    | (r, commented, true) => ⟨false, commented, r⟩
    | (r, commented, false) => beforeNextLine e commented r
  | '\x7d' :: t =>
    let r := t.dropWhile isWhite
    ⟨peek r ≠ ':' || e.disjunction, false, r⟩
  | c :: t =>
    if c = '\x00' then ⟨true, false, c :: t⟩
    else if isWhite c then lineEnd e t
    else ⟨false, false, c :: t⟩

/-! ## 3.  Other tokens -/

/-- What stands behind a question mark that asks. -/
def question? (t : Text) : Option Text :=
  match t.dropWhile isWhite with
  | '?' :: r =>
    if peek r = '?' || peek r = '.' then none
    else
      match r.dropWhile isWhite with
      | ':' :: _ | ')' :: _ | ',' :: _ => none
      | '.' :: s => if Text.isDigitAscii (peek s) then some r else none
      | _ => some r
  | _ => none

/-- The text of a template up to what it is interrupted by. -/
def template? : Text → Option (Text × Text)
  | [] => none
  | '\x60' :: t => some ([], '\x60' :: t)
  | '\\' :: t => some ([], '\\' :: t)
  | '$' :: '\x7b' :: t => some ([], '$' :: '\x7b' :: t)
  | c :: t => if c = '\x00' then none else (template? t).map fun (a, r) => (c :: a, r)

/-- Whether a character may stand in the text of markup. -/
def isContent (c : Char) : Bool :=
  c ∉ ['\x00', '<', '>', '\x7b', '\x7d', '&']

/-- Whether there is more than line breaks and the blanks around them.  `broken` says that only
blanks have been read since the last line break. -/
def showsText (broken : Bool) : Text → Bool
  | [] => false
  | c :: t =>
    if c = '\n' then showsText true t
    else if broken && isWhite c then showsText true t
    else true

/-- What is left behind a comment that takes the rest of its line. -/
def comment? (t : Text) : Option Text :=
  match Text.after? "<!--" t with
  | some r => some (skipLine r)
  | none => (Text.after? "-->" t).map skipLine

/-! ## 4.  Reading -/

/-- The numbers of the tokens. -/
def lineEndNumber : Nat := 164
@[inherit_doc lineEndNumber] def templateNumber : Nat := 165
@[inherit_doc lineEndNumber] def questionNumber : Nat := 166
@[inherit_doc lineEndNumber] def commentNumber : Nat := 167
@[inherit_doc lineEndNumber] def markupTextNumber : Nat := 168

/-- The token of a text `t` that begins behind `start` characters and leaves `rest`. -/
def token (symbol : Nat) (t : Text) (start : Nat) (rest : Text) : Lexed :=
  ⟨symbol, t.take start, (t.take (t.length - rest.length)).drop start, rest⟩

/-- Reads a question mark that may stand some way behind the front of a text. -/
def scanQuestion? (t from_ : Text) : Option Lexed := do
  let rest ← question? from_
  return token questionNumber t (t.length - rest.length - 1) rest

/-- Reads a token that depends on what stands around it. -/
def scan? (e : Expected) (t : Text) : Option Lexed :=
  if e.template then
    if e.lineEnd then none
    else
      match template? t with
      | some (text, rest) => if text.isEmpty then none else some ⟨templateNumber, [], text, rest⟩
      | none => none
  else
    let content := t.takeWhile isContent
    if e.markupText && showsText false content then
      some ⟨markupTextNumber, [], content, t.drop content.length⟩
    else
      let t' := if e.markupText then t.drop content.length else t
      if e.lineEnd || e.signatureEnd then
        let verdict := lineEnd e t'
        if verdict.ends then some ⟨lineEndNumber, [], [], t⟩
        else if !verdict.commented && e.question && peek verdict.rest = '?' then
          scanQuestion? t verdict.rest
        else none
      else if e.question then scanQuestion? t t'
      else if e.comment && !e.disjunction && !e.escape && !e.expression then
        let start := t'.dropWhile fun c => isWhite c
        (comment? start).map fun rest =>
          token commentNumber t (if start.length < t'.length then t.length - start.length else 0) rest
      else none

end Layout

end UiHarness.Syntax
