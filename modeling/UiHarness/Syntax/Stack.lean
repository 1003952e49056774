import UiHarness.Syntax.Tree

/-!
# The stack of an automaton

While the grammar leaves more than one reading open, all of them are followed.  Each is a version:
a way from the start of the file to a state, along which the trees stand that have been read.
Versions share what they have in common, so the ways make up a graph.  Its nodes are numbered in
the order in which they came about; a link leads from a node to one before it, with the tree
between them.  A link without a tree is where reading broke off.

* `Stack.Node`: a node with the links to the nodes before it.
* `Version`: a reading.
* `Stack`: the graph and the versions.
* `Stack.push`: goes on with a version.
* `Stack.walk`, `Stack.pop`: goes back along all ways.
* `Stack.merge`: joins two versions that have come to the same state.
-/

namespace UiHarness.Syntax

/-! ## 1.  Nodes and versions -/

/-- A link to a node before. -/
structure Link where
  /-- The number of the node. -/
  node : Nat
  /-- The tree between the two nodes. -/
  tree : Option Tree
  deriving Inhabited

/-- A node of the graph. -/
structure Stack.Node where
  /-- The state. -/
  state : Nat
  /-- The nodes before it. -/
  links : List Link
  /-- How much of the file has been read. -/
  place : Extent
  /-- What is left of the file. -/
  rest : Text
  /-- The cost of the mistakes up to here. -/
  cost : Nat
  /-- The number of trees up to here that are seen. -/
  count : Nat
  /-- The rank of the trees up to here. -/
  rank : Int
  deriving Inhabited

/-- Whether a version is followed further. -/
inductive Status where
  /-- It is followed. -/
  | active
  /-- It waits before a token that does not fit. -/
  | paused (next : Tree) (rest : Text)
  /-- It is not followed any more. -/
  | halted

/-- A state that a version went through, and how many trees have been read since. -/
structure Landmark where
  place : Extent
  depth : Nat
  state : Nat

/-- A reading. -/
structure Version where
  /-- The node it has come to. -/
  node : Nat
  /-- The states it went through before its last mistake. -/
  landmarks : Option (List Landmark)
  /-- The number of trees at its last mistake. -/
  countAtMistake : Nat
  /-- Whether it is followed further. -/
  status : Status

instance : Inhabited Version := ⟨⟨0, none, 0, .active⟩⟩

/-- The graph and the versions, the most promising ones first. -/
structure Stack where
  nodes : Array Stack.Node
  versions : List Version

namespace Version

/-- Whether a version is followed. -/
def isActive (v : Version) : Bool := v.status matches .active

/-- Whether a version waits. -/
def isPaused (v : Version) : Bool := v.status matches .paused ..

/-- Whether a version is given up. -/
def isHalted (v : Version) : Bool := v.status matches .halted

end Version

namespace Stack

/-- The state in which a version is that is in the middle of a mistake. -/
def mistakeState : Nat := 0

/-- The state in which reading begins. -/
def startState : Nat := 1

/-- A stack before a text. -/
def start (t : Text) : Stack :=
  ⟨#[⟨startState, [], {}, t, 0, 0, 0⟩], [⟨0, none, 0, .active⟩]⟩

/-- A node. -/
def node (s : Stack) (i : Nat) : Node := s.nodes.getD i default

/-- A version. -/
def version (s : Stack) (v : Nat) : Version := s.versions.getD v default

/-- The node that a version has come to. -/
def top (s : Stack) (v : Nat) : Node := s.node (s.version v).node

/-- Changes a version. -/
def modify (s : Stack) (v : Nat) (f : Version → Version) : Stack :=
  { s with versions := s.versions.modify v f }

/-- Drops a version. -/
def drop (s : Stack) (v : Nat) : Stack := { s with versions := s.versions.eraseIdx v }

/-- Drops all versions but the first `n`. -/
def keep (s : Stack) (n : Nat) : Stack := { s with versions := s.versions.take n }

/-- Gives a version up. -/
def halt (s : Stack) (v : Nat) : Stack := s.modify v ({ · with status := .halted })

/-- Lets a version wait before a token that does not fit. -/
def pause (s : Stack) (v : Nat) (next : Tree) (rest : Text) : Stack :=
  let count := (s.top v).count
  s.modify v ({ · with status := .paused next rest, countAtMistake := count })

/-- Adds a version. -/
def add (s : Stack) (v : Version) : Stack := { s with versions := s.versions ++ [v] }

/-- Puts a later version in the place of an earlier one. -/
def replace (s : Stack) (old new : Nat) : Stack :=
  if old = new then s
  else
    let target := s.version old
    let source := s.version new
    let landmarks := if source.landmarks.isSome then source.landmarks else target.landmarks
    (s.modify old fun _ => { source with landmarks }).drop new

/-- Swaps two versions. -/
def swap (s : Stack) (v w : Nat) : Stack :=
  let a := s.version v
  let b := s.version w
  (s.modify v fun _ => b).modify w fun _ => a

/-- Goes on with a version: behind a tree, or without one where reading breaks off. -/
def push (s : Stack) (v : Nat) (tree : Option Tree) (state : Nat) (rest : Text) : Stack :=
  let before := (s.version v).node
  let b := s.node before
  let n : Node := match tree with
    | some t =>
      { state
        links := [⟨before, tree⟩]
        place := b.place.add t.total
        rest
        cost := b.cost + t.cost
        count := b.count + t.count
        rank := b.rank + t.measure.rank }
    | none => { b with state, links := [⟨before, none⟩], rest }
  let place := s.nodes.size
  let count := n.count
  { s with nodes := s.nodes.push n }.modify v fun version =>
    { version with
      node := place
      countAtMistake := if tree.isNone then count else version.countAtMistake }

/-- Goes on with a version behind several trees. -/
def pushAll (s : Stack) (v : Nat) (state : Nat) (rest : Text) : List Tree → Stack
  | [] => s
  | t :: ts => (s.push v (some t) state (Tree.textOf ts ++ rest)).pushAll v state rest ts

/-! ## 2.  Merging -/

/-- Whether two links stand for readings of which one is enough. -/
def alike : Option Tree → Option Tree → Bool
  | none, none => true
  | some a, some b => a.alike b
  | _, _ => false

/-- The rank of what stands in a link. -/
def rankOf : Option Tree → Int
  | none => 0
  | some t => t.measure.rank

/-- What becomes of a link that is added to a node. -/
inductive Joining where
  /-- The first link of its kind to the same node stays, or is replaced. -/
  | same (place : Nat) (better : Bool)
  /-- It leads to a node that can be joined with the one of an older link. -/
  | joined (older : Nat)
  /-- It is a new one. -/
  | fresh

/-- Compares a link with those of a node. -/
def joining (s : Stack) (link : Link) (place : Nat) : List Link → Joining
  | [] => .fresh
  | old :: more =>
    if alike old.tree link.tree then
      if old.node = link.node then .same place (rankOf old.tree < rankOf link.tree)
      else
        let a := s.node old.node
        let b := s.node link.node
        if a.state = b.state && a.place.bytes = b.place.bytes && a.cost = b.cost then
          .joined old.node
        else joining s link (place + 1) more
    else joining s link (place + 1) more

/-- The greatest number of links of a node. -/
def maxLinks : Nat := 8

/-- Adds a link to a node, joining the nodes before it where they can be joined, at most `n` of
them on a way. -/
def addLink : Nat → Stack → Nat → Link → Stack
  | 0, s, _, _ => s
  | n + 1, s, i, link =>
    if link.node = i then s
    else
      let before := s.node link.node
      let rank := before.rank + rankOf link.tree
      match s.joining link 0 (s.node i).links with
      | .same place better =>
        if better then
          { s with nodes := s.nodes.modify i fun node =>
              { node with links := node.links.modify place fun _ => link, rank } }
        else s
      | .joined older =>
        let s := before.links.foldl (fun s l => addLink n s older l) s
        { s with nodes := s.nodes.modify i fun node => { node with rank := max node.rank rank } }
      | .fresh =>
        if maxLinks ≤ (s.node i).links.length then s
        else
          let count := before.count + (link.tree.map Tree.count).getD 0
          { s with nodes := s.nodes.modify i fun node =>
              { node with
                links := node.links ++ [link]
                count := max node.count count
                rank := max node.rank rank } }

/-- Whether two versions have come to the same state at the same place and cost. -/
def mergeable (s : Stack) (v w : Nat) : Bool :=
  let a := s.top v
  let b := s.top w
  (s.version v).isActive && (s.version w).isActive && a.state = b.state &&
    a.place.bytes = b.place.bytes && a.cost = b.cost

/-- Joins a later version with an earlier one. -/
def merge (s : Stack) (v w : Nat) : Stack :=
  let node := (s.version v).node
  let s := (s.top w).links.foldl (fun s l => addLink s.nodes.size s node l) s
  let n := s.node node
  let count := n.count
  let s := if n.state = mistakeState then s.modify v ({ · with countAtMistake := count }) else s
  s.drop w

/-- The first one of some versions with which a later one can be joined. -/
def partner? (s : Stack) (w : Nat) (range : List Nat) : Option Nat :=
  range.find? fun v => s.mergeable v w

/-! ## 3.  Going back -/

/-- A way back from a version. -/
structure Trail where
  /-- The node it has come to. -/
  node : Nat
  /-- The trees on it, in the order of the file. -/
  trees : List Tree
  /-- The number of these trees, those apart that stand between others, and of the places where
  reading broke off. -/
  depth : Nat

/-- What to do with a way back. -/
structure Verdict where
  /-- Whether it is a result. -/
  taken : Bool
  /-- Whether it ends. -/
  ended : Bool

/-- A way over one more link. -/
def Trail.over (trail : Trail) (link : Link) : Trail :=
  match link.tree with
  | some t => ⟨link.node, t :: trail.trees, if t.isBetween then trail.depth else trail.depth + 1⟩
  | none => ⟨link.node, trail.trees, trail.depth + 1⟩

/-- The greatest number of ways that are followed at once. -/
def maxTrails : Nat := 64

/-- The state of going back: what the caller notes, and the ways that were taken. -/
structure Walk (α : Type) where
  note : α
  taken : List Trail

/-- Follows each of some ways over one link.  The `open_` ways are those that are still to be
followed in this round; ways that split off come behind all others, in `split`. -/
def round {α : Type} (s : Stack) (decide : α → Trail → α × Verdict) :
    List Trail → List Trail → List Trail → Walk α → Walk α × List Trail
  | [], kept, split, w => (w, kept.reverse ++ split)
  | trail :: open_, kept, split, w =>
    let (note, verdict) := decide w.note trail
    let links := (s.node trail.node).links
    let w := ⟨note, if verdict.taken then w.taken ++ [trail] else w.taken⟩
    match links with
    | [] => round s decide open_ kept split w
    | first :: others =>
      if verdict.ended then round s decide open_ kept split w
      else
        let room := maxTrails - (open_.length + 1 + kept.length + split.length)
        let more := (others.take room).map trail.over
        round s decide open_ (trail.over first :: kept) (split ++ more) w

/-- Follows ways in at most `n` rounds. -/
def rounds {α : Type} (s : Stack) (decide : α → Trail → α × Verdict) :
    Nat → List Trail → Walk α → Walk α
  | 0, _, w => w
  | n + 1, trails, w =>
    if trails.isEmpty then w
    else
      let (w, trails) := round s decide trails [] [] w
      rounds s decide n trails w

/-- Follows all ways back from a version as far as `decide` says. -/
def walk {α : Type} (s : Stack) (v : Nat) (note : α) (decide : α → Trail → α × Verdict) :
    Walk α :=
  rounds s decide (s.nodes.size + 1) [⟨(s.version v).node, [], 0⟩] ⟨note, []⟩

/-- Trees that were taken off, and the version that stands before them. -/
structure Slice where
  version : Nat
  trees : List Tree

/-- Adds a version for each node where some of the ways end.  Ways that end at one node come one
behind the other. -/
def branchOff (s : Stack) (v : Nat) (trails : List Trail) : Stack × List Slice :=
  let count := (s.version v).countAtMistake
  trails.foldl
    (fun (s, slices) trail =>
      let found := slices.reverse.findIdx? fun slice =>
        (s.version slice.version).node = trail.node
      match found with
      | some back =>
        let place := slices.length - back
        let version := (slices.getD (place - 1) ⟨0, []⟩).version
        (s, slices.take place ++ ⟨version, trail.trees⟩ :: slices.drop place)
      | none =>
        (s.add ⟨trail.node, none, count, .active⟩,
          slices ++ [⟨s.versions.length, trail.trees⟩]))
    (s, [])

/-- Takes `n` trees off a version, in all ways. -/
def pop (s : Stack) (v n : Nat) : Stack × List Slice :=
  let w := s.walk v () fun _ trail => ((), ⟨trail.depth = n, trail.depth = n⟩)
  s.branchOff v w.taken

/-- Takes all trees off a version, in all ways. -/
def popAll (s : Stack) (v : Nat) : Stack × List Slice :=
  let w := s.walk v () fun _ trail => ((), ⟨(s.node trail.node).links.isEmpty, false⟩)
  s.branchOff v w.taken

/-- Takes a mistake off the top of a version, if there is one. -/
def popMistake (s : Stack) (v : Nat) : Stack × List Tree :=
  let isMistake (link : Link) : Bool := (link.tree.map Tree.isMistake).getD false
  if (s.top v).links.any isMistake then
    let w := s.walk v false fun found trail =>
      match trail.trees.getLast? with
      | none => (found, ⟨false, false⟩)
      | some t => if !found && t.isMistake then (true, ⟨true, true⟩) else (found, ⟨false, true⟩)
    match s.branchOff v w.taken with
    | (s, slice :: _) => (s.replace v slice.version, slice.trees)
    | (s, []) => (s, [])
  else (s, [])

/-- How far back the states of a version are noted. -/
def maxDepth : Nat := 16

/-- Notes the states that a version went through. -/
def noteLandmarks (s : Stack) (v : Nat) : Stack :=
  let w := s.walk v ([] : List Landmark) fun noted trail =>
    let n := s.node trail.node
    if maxDepth < trail.depth then (noted, ⟨false, true⟩)
    else if (noted.takeWhile (trail.depth ≤ ·.depth)).any fun l =>
        l.depth = trail.depth && l.state = n.state then (noted, ⟨false, false⟩)
    else (⟨n.place, trail.depth, n.state⟩ :: noted, ⟨false, false⟩)
  s.modify v ({ · with landmarks := some w.note.reverse })

/-! ## 4.  Comparing versions -/

/-- The cost of a version. -/
def cost (s : Stack) (v : Nat) : Nat :=
  let n := s.top v
  let broken := n.state = mistakeState && (n.links.head?.map (·.tree.isNone)).getD false
  n.cost + if (s.version v).isPaused || broken then Cost.mistake else 0

/-- Counts the trees of a version anew if it has lost some that stood before its last mistake. -/
def settle (s : Stack) (v : Nat) : Stack :=
  let count := (s.top v).count
  s.modify v fun version =>
    { version with countAtMistake := min version.countAtMistake count }

/-- The number of trees that a version has read since its last mistake. -/
def countSinceMistake (s : Stack) (v : Nat) : Nat :=
  (s.top v).count - (s.version v).countAtMistake

/-- How a version stands: its cost, the trees read since its last mistake, its rank, and whether it
is in the middle of a mistake. -/
structure Standing where
  cost : Nat
  count : Nat
  rank : Int
  inMistake : Bool

/-- How a version stands. -/
def standing (s : Stack) (v : Nat) : Standing :=
  let paused := (s.version v).isPaused
  { cost := s.cost v + if paused then Cost.tree else 0
    count := s.countSinceMistake v
    rank := (s.top v).rank
    inMistake := paused || (s.top v).state = mistakeState }

/-- Which of two versions is better, and whether the other one is to be given up. -/
inductive Preference where
  | takeLeft
  | preferLeft
  | none
  | preferRight
  | takeRight
  deriving DecidableEq

/-- The difference of costs, weighed by the trees that were read, from which on the dearer version
is given up. -/
def maxDifference : Nat := 18 * Cost.tree

/-- Compares two versions. -/
def Standing.compare (a b : Standing) : Preference :=
  if !a.inMistake && b.inMistake then
    if a.cost < b.cost then .takeLeft else .preferLeft
  else if a.inMistake && !b.inMistake then
    if b.cost < a.cost then .takeRight else .preferRight
  else if a.cost < b.cost then
    if maxDifference < (b.cost - a.cost) * (1 + a.count) then .takeLeft else .preferLeft
  else if b.cost < a.cost then
    if maxDifference < (a.cost - b.cost) * (1 + b.count) then .takeRight else .preferRight
  else if b.rank < a.rank then .preferLeft
  else if a.rank < b.rank then .preferRight
  else .none

/-- Whether a version has read something since its last mistake: text, or at least trees without
mistakes, at most `n` of them without text. -/
def advancedFrom (s : Stack) (countAtMistake : Nat) : Nat → Nat → Bool
  | 0, _ => false
  | n + 1, i =>
    let node := s.node i
    match node.links with
    | ⟨before, some t⟩ :: _ =>
      if 0 < t.total.bytes then true
      else if countAtMistake < node.count && t.cost = 0 then
        advancedFrom s countAtMistake n before
      else false
    | _ => false

/-- Whether a version has read something since its last mistake. -/
def hasAdvanced (s : Stack) (v : Nat) : Bool :=
  (s.top v).cost = 0 ||
    s.advancedFrom (s.version v).countAtMistake s.nodes.size (s.version v).node

end Stack

end UiHarness.Syntax
