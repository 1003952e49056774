import UiHarness.Syntax.Stack

/-!
# Closing phrases

When a phrase is complete, its parts are taken off the stack, and the phrase is put there instead.
If several readings have been joined on the way, there are several lists of parts, and each of them
leads to a version of its own, or the better one is chosen where they begin at one node.

* `Stack.reduce`: closes a phrase.
* `Reader`: the stack together with the best tree of the whole file so far.
* `Reader.accept`: ends a version.
-/

namespace UiHarness.Syntax

namespace Stack

/-- The greatest number of versions that are kept. -/
def maxVersions : Nat := 6

/-- How many more versions there may be before some are given up. -/
def spareVersions : Nat := 4

/-- The lists of parts that begin at one node: the best phrase made of one of them, and what stands
behind it. -/
def bestPhrase (p : Production) : List Slice → Tree × List Tree
  | [] => (Tree.node p.symbol p.names [], [])
  | first :: others =>
    let make (slice : Slice) : Tree × List Tree :=
      let (parts, behind) := Tree.cutTrailing slice.trees
      (Tree.node p.symbol p.names parts, behind)
    others.foldl
      (fun best slice =>
        let other := make slice
        if best.1.worseThan other.1 then other else best)
      (make first)

/-- Puts phrases in the place of their parts, for each version whose parts were taken off.  `halted`
is the number of versions that are given up; `removed` counts those dropped on the way. -/
def close (a : Automaton) (p : Production) (from_ : Nat) (rest : Text) (halted : Nat) :
    Nat → List (List Slice) → Stack → Stack
  | _, [], s => s
  | removed, group :: groups, s =>
    let v := (group.headD ⟨0, []⟩).version - removed
    if maxVersions + spareVersions + halted < v then
      close a p from_ rest halted (removed + 1) groups (s.drop v)
    else
      let (phrase, behind) := bestPhrase p group
      let next := (a.successor? (s.top v).state p.symbol).getD 0
      let s := s.pushAll v next rest (phrase.raise p.rank :: behind)
      match s.partner? v ((List.range v).filter (· ≠ from_)) with
      | some w => close a p from_ rest halted (removed + 1) groups (s.merge w v)
      | none => close a p from_ rest halted removed groups s

/-- Closes a phrase in a version.  The versions that come about stand behind all others. -/
def reduce (a : Automaton) (s : Stack) (v : Nat) (p : Production) : Stack :=
  let rest := (s.top v).rest
  let (s, slices) := s.pop v p.length
  let halted := s.versions.countP Version.isHalted
  s |> close a p v rest halted 0 (slices.splitBy fun x y => x.version = y.version)

end Stack

/-- The readings of a file. -/
structure Reader where
  /-- The readings that are not finished. -/
  stack : Stack
  /-- The best tree of the whole file so far. -/
  finished : Option Tree
  /-- The number of readings that came to the end of the file. -/
  accepted : Nat

namespace Reader

/-- The tree of the whole file: the last phrase, with all trees that stand before and behind it. -/
def rootOf (trees : List Tree) : Option Tree :=
  let (front, behind) := Tree.cutTrailing trees
  front.getLast?.map fun t => Tree.node t.symbol t.names (front.dropLast ++ t.parts ++ behind)

/-- Keeps the better one of two trees of the file. -/
def keepBetter (r : Reader) (root : Tree) : Reader :=
  let best := match r.finished with
    | none => root
    | some t => if t.worseThan root then root else t
  { r with finished := some best, accepted := r.accepted + 1 }

/-- Ends a version behind the end of the file. -/
def accept (r : Reader) (v : Nat) (fileEnd : Tree) : Reader :=
  let s := r.stack.push v (some fileEnd) Stack.startState []
  let (s, slices) := s.popAll v
  let r := (slices.filterMap (rootOf ·.trees)).foldl keepBetter r
  let s := match slices with
    | slice :: _ => s.drop slice.version
    | [] => s
  { r with stack := s.halt v }

end Reader

end UiHarness.Syntax
