import UiHarness.Syntax.Node
import UiHarness.Syntax.Tree
import UiHarness.Text.Quoted

/-!
# Outlines of syntax trees

Of the syntax tree of a file only some phrases matter: the import statements at the top of the file,
the elements and their attributes.  The outline of a tree keeps these as nodes and all else as
tokens.  Phrases that are not seen are looked through, and so is the opening tag of an element, so
that both forms of elements begin alike.

* `Piece`: a tree with the nodes of its outline.
* `Tree.shownParts`: the parts of a tree that are seen.
* `TagName.ofTree`, `Tree.bindings`: what names and import clauses say.
* `Tree.outline`: the nodes of a file.
-/

namespace UiHarness.Syntax

/-! ## 1.  Parts that are seen -/

/-- A tree as a part of a phrase, which may call it by another name. -/
structure Part where
  tree : Tree
  alias? : Option String

namespace Tree

mutual

/-- The blanks before a tree. -/
def blanks : Tree → Text
  | leaf _ blanks .. => blanks
  | branch _ _ parts .. => blanksOf parts

/-- The blanks before a list of trees. -/
def blanksOf : List Tree → Text
  | [] => []
  | t :: _ => blanks t

end

/-- The text of a tree without the blanks before it. -/
def core (t : Tree) : Text := t.text.drop t.blanks.length

/-- The place of the next part among those that are not between others. -/
def placeBehind (t : Tree) (place : Nat) : Nat := if t.isBetween then place else place + 1

/-- The name that a phrase gives to a part at a place. -/
def aliasIn? (names place : Nat) (t : Tree) : Option String :=
  if t.isBetween then none else Automaton.partName? names place

mutual

/-- A tree, or its parts if it is not seen. -/
def shown (alias? : Option String) : Tree → List Part
  | leaf s blanks text missing between m =>
    if Symbol.isVisible s || alias?.isSome then [⟨leaf s blanks text missing between m, alias?⟩]
    else []
  | branch s names parts between m =>
    if Symbol.isVisible s || alias?.isSome then [⟨branch s names parts between m, alias?⟩]
    else shownOf names 0 parts

/-- The trees of a list, or their parts where they are not seen. -/
def shownOf (names place : Nat) : List Tree → List Part
  | [] => []
  | t :: ts =>
    shown (aliasIn? names place t) t ++ shownOf names (placeBehind t place) ts

end

/-- The parts of a tree that are seen. -/
def shownParts (t : Tree) : List Part := shownOf t.names 0 t.parts

end Tree

/-- Whether a part is a name. -/
def Part.isName (p : Part) : Bool :=
  (match p.alias? with
    | some name => some name
    | none => Symbol.tokenName? p.tree.symbol) = some "identifier"

/-! ## 2.  Names and import clauses -/

/-- Whether a tree is a name and nothing else. -/
def Tree.isName (t : Tree) : Bool := t.symbol = Symbol.name && t.parts.isEmpty

/-- The name in an opening tag. -/
def TagName.ofTree (t : Tree) : TagName :=
  match t.parts with
  | [] => .simple t.core
  | object :: others =>
    match others.getLast? with
    | some property =>
      if t.symbol = Symbol.memberName && object.isName && property.isName then
        .member object.core (Tree.textOf others.dropLast ++ property.blanks) property.core
      else .other t.core
    | none => .other t.core

/-- What stands between quotes. -/
def unquoted (t : Text) : Text :=
  let isQuote (c : Char) : Bool := c = '\'' || c = '"'
  ((t.dropWhile isQuote).reverse.dropWhile isQuote).reverse

namespace Tree

/-- What a name in the braces of an import statement binds: the last name is the local one, and the
one before `as` is the one it has in the other module. -/
def bindingOf? (source : Text) (specifier : Tree) : Option Binding :=
  let parts := specifier.shownParts.filter fun p => !p.tree.isBetween
  match parts.reverse with
  | local_ :: as_ :: name :: _ =>
    if as_.alias?.isNone && Symbol.tokenName? as_.tree.symbol = some "as" then
      some (.named local_.tree.core source (some (unquoted name.tree.core)))
    else some (.named (unquoted local_.tree.core) source none)
  | name :: _ => some (.named (unquoted name.tree.core) source none)
  | [] => none

/-- What a part of an import clause binds. -/
def bindingsOf (source : Text) (p : Part) : List Binding :=
  if p.isName then [{ localName := p.tree.core, source, isDefault := true }]
  else if p.tree.symbol = Symbol.wholeModule then
    match p.tree.shownParts.find? Part.isName with
    | some name => [{ localName := name.tree.core, source, isNamespace := true }]
    | none => []
  else if p.tree.symbol = Symbol.importedNames then
    p.tree.shownParts.filterMap fun p =>
      if p.tree.symbol = Symbol.importedName then bindingOf? source p.tree else none
  else []

/-- What an import clause binds. -/
def bindings (source : Text) (clause : Tree) : List Binding :=
  clause.shownParts.flatMap (bindingsOf source)

end Tree

/-! ## 3.  Pieces -/

/-- A tree with the nodes of its outline. -/
structure Piece where
  /-- The tree. -/
  tree : Tree
  /-- The nodes, with the blanks before the tree. -/
  nodes : List Node

namespace Piece

/-- The nodes of a list of pieces. -/
def nodesOf (ps : List Piece) : List Node := ps.flatMap nodes

/-- The text of a list of pieces. -/
def textOf (ps : List Piece) : Text := Tree.textOf (ps.map tree)

/-- Whether a piece is one of some symbols. -/
def isOne (symbols : List Symbol) (p : Piece) : Bool := symbols.contains p.tree.symbol

/-- The pieces before the first one with a property, this one, and those behind it. -/
def splitAt? (ps : List Piece) (f : Piece → Bool) : Option (List Piece × Piece × List Piece) :=
  match ps.dropWhile (!f ·) with
  | [] => none
  | p :: behind => some (ps.takeWhile (!f ·), p, behind)

/-- An import statement: as far as the module it names it is one node. -/
def importNodes (ps : List Piece) : List Node :=
  match splitAt? ps (isOne [Symbol.string]) with
  | none => nodesOf ps
  | some (front, source, behind) =>
    let text := textOf (front ++ [source])
    let blanks := Tree.blanksOf (ps.map tree)
    let bindings := match front.find? (isOne [Symbol.importClause]) with
      | some clause => clause.tree.bindings (unquoted source.tree.core)
      | none => []
    Node.blank blanks ++ [.importStatement (text.drop blanks.length) bindings] ++ nodesOf behind

/-- An attribute of an element. -/
def attributeNodes : List Piece → List Node
  | [] => []
  | name :: others =>
    let attr (link : Text) (quoted : Option Text) (code : List Node) : List Node :=
      Node.blank name.tree.blanks ++ [.attr name.tree.core link quoted code]
    match splitAt? others (isOne [Symbol.equals]) with
    | none => attr [] none (nodesOf others)
    | some (front, sign, behind) =>
      let link := textOf (front ++ [sign])
      match behind with
      | value :: more =>
        if isOne [Symbol.string, Symbol.markupString] value then
          attr (link ++ value.tree.blanks) (some value.tree.core) (nodesOf more)
        else attr link none (nodesOf behind)
      | [] => attr link none []

/-- The name in an opening tag with what stands before it, and the pieces behind it. -/
def tagName (ps : List Piece) : Text × Option TagName × List Piece :=
  let between := ps.takeWhile (·.tree.isBetween)
  match ps.drop between.length with
  | name :: others =>
    if isOne Symbol.tagNames name then
      (textOf between ++ name.tree.blanks, some (TagName.ofTree name.tree), others)
    else ([], none, ps)
  | [] => ([], none, ps)

/-- The type arguments in an opening tag with what stands before them, and the pieces behind
them.  The code of a computed name in a type can have elements of its own. -/
def typeArguments (ps : List Piece) : List Node × List Piece :=
  let between := ps.takeWhile (·.tree.isBetween)
  match ps.drop between.length with
  | types :: others =>
    if isOne [Symbol.typeArguments] types then (nodesOf (between ++ [types]), others)
    else ([], ps)
  | [] => ([], ps)

/-- An element. -/
def elementNodes (ps : List Piece) : List Node :=
  match splitAt? ps (isOne [Symbol.tagEnd, Symbol.tagEndSlash]) with
  | none => nodesOf ps
  | some (tag, stop, content) =>
    let (lead, name, others) := tagName tag.tail
    let (types, others) := if name.isSome then typeArguments others else ([], others)
    let attributes := nodesOf others ++ Node.blank stop.tree.blanks
    let blanks := Node.blank (Tree.blanksOf (ps.map tree))
    match content.getLast? with
    | none => blanks ++ [.element lead name types attributes [] none]
    | some closing =>
      blanks ++ [.element lead name types attributes
        (nodesOf content.dropLast ++ Node.blank closing.tree.blanks) (some closing.tree.core)]

/-- The nodes of a phrase of given pieces.  `top` says whether it stands at the top of the file. -/
def phraseNodes (top : Bool) (symbol : Symbol) (ps : List Piece) : List Node :=
  if symbol = Symbol.element || symbol = Symbol.selfClosingElement then elementNodes ps
  else if symbol = Symbol.tagAttribute then attributeNodes ps
  else if symbol = Symbol.importStatement && top then importNodes ps
  else nodesOf ps

end Piece

/-! ## 4.  The outline -/

namespace Tree

mutual

/-- The pieces that a tree is looked at as. -/
def pieces (top named : Bool) : Tree → List Piece
  | leaf s blanks text missing between m =>
    [⟨leaf s blanks text missing between m, Node.blank (blanks ++ text)⟩]
  | branch s names parts between m =>
    if (Symbol.isVisible s || named) && s ≠ Symbol.openingTag then
      [⟨branch s names parts between m, Piece.phraseNodes top s (piecesOf false names 0 parts)⟩]
    else piecesOf top names 0 parts

/-- The pieces that a list of trees is looked at as. -/
def piecesOf (top : Bool) (names place : Nat) : List Tree → List Piece
  | [] => []
  | t :: ts =>
    pieces top (aliasIn? names place t).isSome t ++ piecesOf top names (placeBehind t place) ts

end

/-- The outline of the tree of a file. -/
def outline (root : Tree) : List Node := Piece.nodesOf (piecesOf true root.names 0 root.parts)

end Tree

/-! ## 5.  Mistakes -/

/-- What is wrong with a file. -/
inductive Finding where
  /-- A token is missing. -/
  | missing (token : Text)
  /-- There is text that fits nowhere. -/
  | unexpected (text : Text)

namespace Tree

mutual

/-- The first mistake in a tree that is seen, with the number of line feeds before it; there are
`lines` before the tree. -/
def finding? (alias? : Option String) (lines : Nat) : Tree → Option (Nat × Finding)
  | leaf s blanks text missing _ _ =>
    if missing && (Symbol.isVisible s || alias?.isSome) then
      some (lines + blanks.count '\n',
        .missing ((alias?.orElse fun _ => Symbol.tokenName? s).getD "").toList)
    else if s = Symbol.error then some (lines + blanks.count '\n', .unexpected text)
    else none
  | branch s names parts _ m =>
    if s = Symbol.error then
      let blanks := blanksOf parts
      some (lines + blanks.count '\n', .unexpected ((textOf parts).drop blanks.length))
    else if m.cost = 0 then none
    else findingIn? names 0 lines parts

/-- The first mistake in a list of trees that is seen. -/
def findingIn? (names place lines : Nat) : List Tree → Option (Nat × Finding)
  | [] => none
  | t :: ts =>
    match finding? (aliasIn? names place t) lines t with
    | some found => some found
    | none => findingIn? names (placeBehind t place) (lines + t.total.lines) ts

end

end Tree

end UiHarness.Syntax
