import UiHarness.Syntax.Token

/-!
# Symbols

A symbol says what a piece of a source file is: a token, or a phrase that is made of tokens and
other phrases.  Symbols are numbered, first the tokens in their order and then the phrases.  Two
more symbols are for text that is no phrase: a mistake in the file, and a part of one that has not
been closed yet.

Some phrases only help to build others and are not seen from outside.

* `Symbol.isVisible`: whether a symbol is seen.
* `Symbol.error`, `Symbol.skipped`: the symbols for mistakes.
* the symbols that the rest of the library asks for.
-/

namespace UiHarness.Syntax

/-- The number of a token or a phrase. -/
abbrev Symbol := Nat

namespace Symbol

/-! ## 1.  Kinds of symbols -/

/-- The number of the end of the file. -/
def fileEnd : Symbol := 0

/-- The number of a name. -/
def name : Symbol := 1

/-- The sign between the name and the value of an attribute. -/
def equals : Symbol := 7

/-- The end of an opening tag. -/
def tagEnd : Symbol := 90

/-- The end of an opening tag that closes itself. -/
def tagEndSlash : Symbol := 140

/-- The number of tokens, and so the first number of a phrase. -/
def tokenCount : Nat := 171

/-- A mistake. -/
def error : Symbol := 65535

/-- A part of a mistake. -/
def skipped : Symbol := 65534

/-- The phrases that are not seen, as the ones among the bits of a number. -/
def hiddenPhrases : Nat := 0x3ffffffc00000000142010008200200420000680c000300004008460

/-- Whether a token has a name of its own. -/
def tokenName? (s : Symbol) : Option String := tokens[s]?.bind Token.name

/-- Whether a token is a word of the language. -/
def isWord (s : Symbol) : Bool :=
  match tokens[s]? with
  | some (.keyword _) => true
  | _ => false

/-- The tokens that are not seen. -/
def unseenTokens : List Symbol := [0, 164, 169, 170]

/-- Whether a symbol is seen. -/
def isVisible (s : Symbol) : Bool :=
  if s < tokenCount then !unseenTokens.contains s
  else if s = error then true
  else if s = skipped then false
  else !hiddenPhrases.testBit (s - tokenCount)

/-- All tokens have a symbol, and those that are not seen are those without a name. -/
theorem tokenName?_eq_none_iff :
    tokens.length = tokenCount ∧
      ∀ s < tokenCount, tokenName? s = none ↔ s ∈ unseenTokens := by
  decide +kernel

/-! ## 2.  Phrases -/

/-- An import statement. -/
def importStatement : Symbol := 179

/-- What an import statement binds. -/
def importClause : Symbol := 180

/-- The binding of a whole module. -/
def wholeModule : Symbol := 182

/-- The names in braces. -/
def importedNames : Symbol := 183

/-- A name in braces. -/
def importedName : Symbol := 184

/-- A string. -/
def string : Symbol := 252

/-- A string in markup. -/
def markupString : Symbol := 278

/-- An object and its property. -/
def memberName : Symbol := 224

/-- A name with a hyphen in it, as elements and attributes can have it. -/
def hyphenatedName : Symbol := 138

/-- The arguments of a type. -/
def typeArguments : Symbol := 349

/-- An element with content. -/
def element : Symbol := 271

/-- The opening tag of an element. -/
def openingTag : Symbol := 273

/-- A name with a namespace. -/
def namespaceName : Symbol := 274

/-- What the name in an opening tag can be. -/
def tagNames : List Symbol := [name, hyphenatedName, memberName, namespaceName]

/-- An element of one tag. -/
def selfClosingElement : Symbol := 276

/-- An attribute of an element. -/
def tagAttribute : Symbol := 277

end Symbol

end UiHarness.Syntax
