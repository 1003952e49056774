import UiHarness.Syntax.Pattern

/-!
# Tokens

The tokens of a source file.  Most are signs and words that stand for themselves; names, numbers,
comments and the parts of strings are given by patterns; a few are found by what stands around
them, such as the end of a statement without a semicolon.

A word of the language is also a name, and is read as a name where the word itself is not expected.

* `Token`: a token.
* `tokens`: all tokens.  The place of a token in this list is its number.
* `keyword?`: the number of a word.
-/

namespace UiHarness.Syntax

/-! ## 1.  Classes of characters -/

/-- Whether a character only separates tokens. -/
def isSpace (c : Char) : Bool :=
  let n := c.toNat
  (9 ≤ n && n ≤ 13) || n = 32 || n = 0xA0 || n = 0x1680 || (0x2000 ≤ n && n ≤ 0x200B) ||
    n = 0x2028 || n = 0x2029 || n = 0x202F || n = 0x205F || n = 0x2060 || n = 0x3000 || n = 0xFEFF

/-- Whether a character may stand inside a name. -/
def isNameChar (c : Char) : Bool :=
  0x20 ≤ c.toNat && !isSpace c &&
    c ∉ [':', ';', '\x60', '"', '\'', '@', '#', '.', ',', '|', '^', '&', '<', '=', '>', '+', '-',
      '*', '/', '\\', '%', '?', '!', '~', '(', ')', '[', ']', '\x7b', '\x7d']

/-- Whether a name may begin with a character. -/
def isNameStart (c : Char) : Bool := isNameChar c && !Text.isDigitAscii c

/-- Whether a character is a Latin letter. -/
def isLetter (c : Char) : Bool := Text.isLowerAscii c || Text.isUpperAscii c

/-- Whether a hyphenated name may begin with a character. -/
def isTagStart (c : Char) : Bool := isLetter c || c = '_' || c = '$'

/-- Whether a character may stand in a hyphenated name, the hyphen apart. -/
def isTagChar (c : Char) : Bool := isTagStart c || Text.isDigitAscii c

/-- Whether a line ends at a character. -/
def isLineBreak (c : Char) : Bool := c = '\n' || c = '\u2028' || c = '\u2029'

/-! ## 2.  Patterns -/

namespace Pattern

/-- A text that is written as a literal. -/
def lit (s : String) : Pattern := text s

/-- A character that is none of these. -/
def noneOf (cs : List Char) : Pattern := oneOf fun c => !cs.contains c

/-- One of these characters. -/
def among (cs : List Char) : Pattern := oneOf fun c => cs.contains c

/-- A digit. -/
def digit : Pattern := oneOf Text.isDigitAscii

/-- A hexadecimal digit. -/
def hexDigit : Pattern := oneOf Text.isHexDigit

/-- An octal digit. -/
def octalDigit : Pattern := oneOf fun c => '0' ≤ c && c ≤ '7'

/-- The number of a character, in four hexadecimal digits or in braces. -/
def codePoint : Pattern :=
  both (lit "u") (either (times hexDigit 4) (all [lit "\x7b", some hexDigit, lit "\x7d"]))

/-- A character of a name that `accepts` accepts, as it is or by its number. -/
def nameChar (accepts : Char → Bool) : Pattern :=
  either (oneOf accepts) (both (lit "\\") codePoint)

/-- A name. -/
def name : Pattern := both (nameChar isNameStart) (many (nameChar isNameChar))

/-- A name with a hyphen. -/
def hyphenated : Pattern :=
  all [oneOf isTagStart, many (oneOf isTagChar), lit "-", many (oneOf fun c => isTagChar c || c = '-')]

/-- Digits, between which single underscores may stand. -/
def digits (d : Pattern) : Pattern := both d (many (both (maybe (lit "_")) d))

/-- A number that begins with a zero and a letter. -/
def based (lower upper : String) (d : Pattern) : Pattern :=
  both (either (lit lower) (lit upper)) (digits d)

/-- A power of ten behind a number. -/
def exponent : Pattern :=
  all [among ['e', 'E'], maybe (among ['-', '+']), digits digit]

/-- The whole part of a number with a fraction or a power of ten. -/
def whole : Pattern :=
  either (lit "0")
    (all [maybe (lit "0"), oneOf fun c => '1' ≤ c && c ≤ '9',
      maybe (both (maybe (lit "_")) (digits digit))])

/-- A number. -/
def number : Pattern :=
  let hexadecimal := based "0x" "0X" hexDigit
  let binary := based "0b" "0B" (among ['0', '1'])
  let octal := based "0o" "0O" octalDigit
  let decimal := digits digit
  any [
    hexadecimal, binary, octal, decimal,
    both (any [hexadecimal, binary, octal, decimal]) (lit "n"),
    all [whole, lit ".", maybe decimal, maybe exponent],
    all [lit ".", decimal, maybe exponent],
    both whole exponent]

/-- A comment. -/
def comment : Pattern :=
  let stars := some (lit "*")
  either
    (both (lit "//") (many (noneOf ['\r', '\n', '\u2028', '\u2029'])))
    (all [
      lit "/*", many (noneOf ['*']), stars,
      many (all [noneOf ['/', '*'], many (noneOf ['*']), stars]), lit "/"])

/-- The piece of a string up to the quote, an escape or the end of the line. -/
def fragment (quote : Char) : Pattern := some (noneOf [quote, '\\', '\r', '\n'])

/-- The escape of a character in a string. -/
def escape : Pattern :=
  both (lit "\\") (any [
    noneOf ['x', 'u', '0', '1', '2', '3', '4', '5', '6', '7'],
    upTo octalDigit 2,
    both (lit "x") (times hexDigit 2),
    codePoint,
    both (among ['\r', '?']) (among ['\n', '\u2028', '\u2029'])])

/-- A regular expression between its slashes. -/
def expression : Pattern :=
  let escaped := both (lit "\\") (noneOf ['\n'])
  some (any [
    all [lit "[", many (either escaped (noneOf [']', '\n', '\\'])), lit "]"],
    escaped,
    noneOf ['/', '\\', '[', '\n']])

/-- A character that is written by its name or its number. -/
def reference : Pattern :=
  all [
    lit "&",
    either
      (both (lit "#")
        (either (both (among ['x', 'X']) (upTo hexDigit 5)) (upTo digit 4)))
      (upTo (oneOf isLetter) 29),
    lit ";"]

/-- The piece of a string of markup up to the quote or a reference. -/
def markupFragment (quote : Char) : Pattern :=
  some (either (noneOf [quote, '&'])
    (both (lit "&") (oneOf fun c => !(c = '#' || isLetter c))))

end Pattern

/-! ## 3.  Tokens -/

/-- A token. -/
inductive Token where
  /-- A word of the language. -/
  | keyword (word : String)
  /-- A sign. -/
  | sign (text : String)
  /-- A token of a pattern.  Blanks may stand before it. -/
  | lexeme (name : String) (pattern : Pattern)
  /-- A token of a pattern that begins where the token before it ends.  Of two tokens that begin
  at one place, the one of higher precedence is preferred to a longer one. -/
  | piece (name : String) (pattern : Pattern) (precedence : Int)
  /-- A token that is found by what stands around it. -/
  | layout (name : String)
  /-- A token that is found by what stands around it, and of which nothing is to be seen. -/
  | unseen

open Token in
/-- All tokens. -/
def tokens : List Token := [
  unseen,
  lexeme "identifier" .name,
  lexeme "hash_bang_line" (.both (.lit "#!") (.many (.noneOf ['\n']))),
  keyword "export", sign "*", keyword "default", keyword "type", sign "=", keyword "as",
  keyword "namespace", sign "\x7b", sign ",", sign "\x7d", keyword "typeof", keyword "import",
  keyword "from", keyword "with", keyword "var", keyword "let", keyword "const", sign "!",
  keyword "else", keyword "if", keyword "switch", keyword "for", sign "(", sign ";", sign ")",
  keyword "await", keyword "in", keyword "of", keyword "while", keyword "do", keyword "try",
  keyword "break", keyword "continue", keyword "debugger", keyword "return", keyword "throw",
  sign ":", keyword "case", keyword "catch", keyword "finally", keyword "yield", sign "[",
  sign "]", sign ".", keyword "class", keyword "async", keyword "function", sign "=>", sign "?.",
  keyword "new", keyword "using", sign "+=", sign "-=", sign "*=", sign "/=", sign "%=",
  sign "^=", sign "&=", sign "|=", sign ">>=", sign ">>>=", sign "<<=", sign "**=", sign "&&=",
  sign "||=", sign "??=", sign "...", sign "&&", sign "||", sign ">>", sign ">>>", sign "<<",
  sign "&", sign "^", sign "|", sign "+", sign "-", sign "/", sign "%", sign "**", sign "<",
  sign "<=", sign "==", sign "===", sign "!=", sign "!==", sign ">=", sign ">", sign "??",
  keyword "instanceof", sign "~", keyword "void", keyword "delete", sign "++", sign "--",
  sign "\"", sign "'",
  piece "string_fragment" (.fragment '"') 1,
  piece "string_fragment" (.fragment '\'') 1,
  piece "escape_sequence" .escape 0,
  lexeme "comment" .comment,
  sign "\x60", sign "$\x7b",
  piece "/" (.lit "/") 1,
  piece "regex_pattern" .expression (-1),
  piece "regex_flags" (.some (.oneOf Text.isLowerAscii)) 0,
  lexeme "number" .number,
  lexeme "private_property_identifier" (.both (.lit "#") .name),
  keyword "target", keyword "meta", keyword "this", keyword "super", keyword "true",
  keyword "false", keyword "null", keyword "undefined", sign "@", keyword "static",
  keyword "readonly", keyword "get", keyword "set", sign "?", keyword "declare",
  keyword "public", keyword "private", keyword "protected", keyword "override",
  keyword "module", keyword "any", keyword "number", keyword "boolean", keyword "string",
  keyword "symbol", keyword "object",
  lexeme "html_character_reference" .reference,
  lexeme "identifier" .hyphenated,
  sign "</", sign "/>",
  piece "string_fragment" (.markupFragment '"') 1,
  piece "string_fragment" (.markupFragment '\'') 1,
  keyword "abstract", keyword "accessor", keyword "satisfies", keyword "require",
  keyword "extends", keyword "implements", keyword "global", keyword "interface",
  keyword "enum", sign "-?:", sign "+?:", sign "?:", keyword "asserts", keyword "infer",
  keyword "is", keyword "keyof", keyword "unique", keyword "unknown", keyword "never",
  sign "\x7b|", sign "|\x7d",
  unseen,
  layout "string_fragment", layout "?", layout "html_comment", layout "jsx_text",
  unseen, unseen]

namespace Token

/-- How a token is called. -/
def name : Token → Option String
  | keyword "unique" => some "unique symbol"
  | keyword word => some word
  | sign text => some text
  | lexeme name _ => some name
  | piece name _ _ => some name
  | layout name => some name
  | unseen => none

/-- The pattern of a token. -/
def pattern? : Token → Option Pattern
  | sign text => some (.lit text)
  | lexeme _ pattern => some pattern
  | piece _ pattern _ => some pattern
  | _ => none

/-- How strongly a token is preferred to a longer one. -/
def precedence : Token → Int
  | piece _ _ precedence => precedence
  | _ => 0

/-- How strongly a token is preferred to one of the same length. -/
def rank : Token → Nat
  | sign _ => 2
  | piece _ _ _ => 1
  | _ => 0

/-- Whether blanks may stand before a token. -/
def mayFollowBlanks : Token → Bool
  | piece _ _ _ => false
  | _ => true

end Token

/-- The words of the language with their numbers. -/
def keywords : List (Text × Nat) :=
  tokens.zipIdx.filterMap fun (token, n) =>
    match token with
    | .keyword word => some (word.toList, n)
    | _ => none

/-- The number of a word. -/
def keyword? (word : Text) : Option Nat := (keywords.find? (·.1 == word)).map (·.2)

end UiHarness.Syntax
