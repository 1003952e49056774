import UiHarness.Syntax.Automaton.Productions

/-!
# Syntax trees

What has been read of a file is kept as trees, with the tokens as their leaves.  A file that is not
right is also read as a tree: text that fits nowhere stands in it as a mistake, and a token that
the grammar asks for may be put in although it is missing.  Each tree carries a measure, by which
different readings of the same text are compared: above all the cost of its mistakes.

* `Extent`: how much text there is.
* `Measure`: what is known of a tree as a whole.
* `Tree`: the trees.
* `Tree.node`: a tree of given parts.
* `Tree.worseThan`: which of two trees for the same text is dropped.
-/

namespace UiHarness.Syntax

/-! ## 1.  Measures -/

/-- How much text there is. -/
structure Extent where
  /-- The number of bytes. -/
  bytes : Nat := 0
  /-- The number of line feeds. -/
  lines : Nat := 0
  deriving DecidableEq, Repr, Inhabited

namespace Extent

/-- The extent of a text. -/
def ofText (t : Text) : Extent := ⟨t.byteSize, t.count '\n'⟩

/-- The extent of two texts together. -/
def add (a b : Extent) : Extent := ⟨a.bytes + b.bytes, a.lines + b.lines⟩

/-- What is left of an extent. -/
def sub (a b : Extent) : Extent := ⟨a.bytes - b.bytes, a.lines - b.lines⟩

end Extent

/-- What is known of a tree as a whole. -/
structure Measure where
  /-- The blanks before it. -/
  blanks : Extent := {}
  /-- The text from its first token to its last one. -/
  size : Extent := {}
  /-- The cost of the mistakes in it. -/
  cost : Nat := 0
  /-- How much it is preferred to other trees for the same text. -/
  rank : Int := 0
  /-- The number of its parts that are seen. -/
  parts : Nat := 0
  /-- The number of trees in it that are seen. -/
  trees : Nat := 0
  deriving DecidableEq, Repr, Inhabited

namespace Cost

/-- The cost of a mistake. -/
def mistake : Nat := 500

/-- The cost of a token that is missing. -/
def missing : Nat := 110

/-- The cost of a tree inside a mistake. -/
def tree : Nat := 100

/-- The cost of a line in a mistake. -/
def line : Nat := 30

/-- The cost of text in a mistake. -/
def text (e : Extent) : Nat := e.bytes + line * e.lines

end Cost

/-! ## 2.  Trees -/

/-- A tree of a part of a file. -/
inductive Tree where
  /-- A token, the blanks before it, its text, whether it is missing in the file, and whether it
  stands between others. -/
  | leaf (symbol : Symbol) (blanks text : Text) (missing between : Bool) (measure : Measure)
  /-- A phrase, the list of the names of its parts, the parts, and whether it stands between
  others. -/
  | branch (symbol : Symbol) (names : Nat) (parts : List Tree) (between : Bool) (measure : Measure)
  deriving Inhabited

namespace Tree

/-- What a tree is. -/
def symbol : Tree → Symbol
  | leaf s .. => s
  | branch s .. => s

/-- The measure of a tree. -/
def measure : Tree → Measure
  | leaf _ _ _ _ _ m => m
  | branch _ _ _ _ m => m

/-- Whether a tree stands between others and belongs to no phrase. -/
def isBetween : Tree → Bool
  | leaf _ _ _ _ b _ => b
  | branch _ _ _ b _ => b

/-- A tree that stands between others, or does not. -/
def setBetween (b : Bool) : Tree → Tree
  | leaf s blanks text missing _ m => leaf s blanks text missing b m
  | branch s names parts _ m => branch s names parts b m

/-- A token as another one with the same text. -/
def setSymbol (s : Symbol) : Tree → Tree
  | leaf _ blanks text missing b m => leaf s blanks text missing b m
  | branch _ names parts b m => branch s names parts b m

/-- The parts of a tree. -/
def parts : Tree → List Tree
  | leaf .. => []
  | branch _ _ parts .. => parts

/-- The list of the names of the parts of a tree. -/
def names : Tree → Nat
  | leaf .. => 0
  | branch _ names .. => names

mutual

/-- The text of a tree with the blanks before it. -/
def text : Tree → Text
  | leaf _ blanks text .. => blanks ++ text
  | branch _ _ parts .. => textOf parts

/-- The text of a list of trees. -/
def textOf : List Tree → Text
  | [] => []
  | t :: ts => text t ++ textOf ts

end

/-- Whether a tree is a mistake. -/
def isMistake (t : Tree) : Bool := t.symbol = Symbol.error

/-- The cost of the mistakes in a tree. -/
def cost (t : Tree) : Nat := t.measure.cost

/-- The extent of a tree with the blanks before it. -/
def total (t : Tree) : Extent := t.measure.blanks.add t.measure.size

/-- The number of trees to be seen where a tree is, the one itself included.  The part of a mistake
counts, too. -/
def count (t : Tree) : Nat :=
  (if t.parts.isEmpty then 0 else t.measure.trees) +
    (if Symbol.isVisible t.symbol then 1 else 0) + (if t.symbol = Symbol.skipped then 1 else 0)

/-- A token. -/
def token (symbol : Symbol) (blanks text : Text) : Tree :=
  leaf symbol blanks text false (symbol = Symbol.fileEnd)
    { blanks := .ofText blanks, size := .ofText text }

/-- A token that is missing. -/
def absent (symbol : Symbol) : Tree :=
  leaf symbol [] [] true false { cost := Cost.missing + Cost.mistake }

/-- The cost of a part of a mistake, beside the cost of the mistakes in it. -/
def costInMistake (t : Tree) : Nat :=
  if t.isBetween || (t.isMistake && t.parts.isEmpty) then 0
  else if Symbol.isVisible t.symbol then Cost.tree
  else if t.parts.isEmpty then 0
  else Cost.tree * t.measure.parts

/-- A measure with one more part.  The place of the part among those that are not between others
tells whether it has a name of its own. -/
def measureWith (mistake : Bool) (names : Nat) (m : Measure) (place : Nat) (t : Tree) : Measure :=
  let inner := if t.parts.isEmpty then 0 else t.measure.trees
  let seen := Symbol.isVisible t.symbol ||
    (!t.isBetween && t.symbol ≠ Symbol.fileEnd && (Automaton.partName? names place).isSome)
  { m with
    size := m.size.add t.total
    cost := m.cost + (if t.symbol = Symbol.skipped then 0 else t.cost) +
      if mistake then t.costInMistake else 0
    rank := m.rank + t.measure.rank
    parts := m.parts + if seen then 1 else if t.parts.isEmpty then 0 else t.measure.parts
    trees := m.trees + inner + if seen then 1 else 0 }

/-- The measure of a list of parts. -/
def measureOf (mistake : Bool) (names : Nat) (parts : List Tree) : Measure :=
  let all := parts.foldl
    (fun (m, place) t =>
      (measureWith mistake names m place t, if t.isBetween then place else place + 1))
    (({} : Measure), 0)
  let blanks := match parts with
    | [] => {}
    | t :: _ => t.measure.blanks
  { all.1 with blanks, size := all.1.size.sub blanks }

/-- A tree of given parts. -/
def node (symbol : Symbol) (names : Nat) (parts : List Tree) : Tree :=
  let mistake := symbol = Symbol.error || symbol = Symbol.skipped
  let m := measureOf mistake names parts
  branch symbol names parts false
    (if mistake then { m with cost := m.cost + Cost.mistake + Cost.text m.size } else m)

/-- A tree that is preferred more than its parts. -/
def raise (rank : Int) : Tree → Tree
  | leaf s blanks text missing b m => leaf s blanks text missing b { m with rank := m.rank + rank }
  | branch s names parts b m => branch s names parts b { m with rank := m.rank + rank }

/-! ## 3.  Comparing trees -/

/-- Whether two trees are as good as one: neither needs to be kept beside the other. -/
def alike (a b : Tree) : Bool :=
  a.symbol = b.symbol &&
    ((0 < a.cost && 0 < b.cost) ||
      (a.measure.blanks.bytes = b.measure.blanks.bytes &&
        a.measure.size.bytes = b.measure.size.bytes && a.parts.length = b.parts.length &&
        a.isBetween = b.isBetween))

mutual

/-- The order of trees by their symbols and the number of their parts. -/
def compare : Tree → Tree → Ordering
  | leaf s .., u => (Ord.compare s u.symbol).then (Ord.compare 0 u.parts.length)
  | branch s _ parts _ _, u =>
    (Ord.compare s u.symbol).then
      ((Ord.compare parts.length u.parts.length).then (compareAll parts u.parts))

/-- The order of lists of trees by the first trees that differ. -/
def compareAll : List Tree → List Tree → Ordering
  | t :: ts, u :: us => (compare t u).then (compareAll ts us)
  | _, _ => .eq

end

/-- Whether a tree is dropped in favour of another one for the same text: the one with the smaller
cost is kept, then the one of the higher rank, then, if there are mistakes, the second one, and
last the one that comes first. -/
def worseThan (t u : Tree) : Bool :=
  if t.cost ≠ u.cost then u.cost < t.cost
  else if t.measure.rank ≠ u.measure.rank then t.measure.rank < u.measure.rank
  else if 0 < t.cost then true
  else t.compare u = .gt

/-- The trees of a list behind which only such trees stand that are between others, and those. -/
def cutTrailing (ts : List Tree) : List Tree × List Tree :=
  let behind := (ts.reverse.takeWhile isBetween).reverse
  (ts.take (ts.length - behind.length), behind)

end Tree

end UiHarness.Syntax
