import UiHarness.Syntax.Recovery

/-!
# Reading a file into a tree

A file is read token by token.  What the next token is depends on the state: only those tokens are
looked for that can come next.  Where the grammar leaves more than one reading open, each is
followed by a version of its own; after every token the versions are compared, joined where they
have come to the same state, and given up where another one is clearly better.  A version that
cannot go on waits, and is only mended if no other one can go on either.

* `Reader.next`: reads a token.
* `Reader.advance`: goes on with a version by a token.
* `Reader.condense`: compares the versions.
* `Tree.read?`: the tree of a file.
-/

namespace UiHarness.Syntax

namespace Reader

/-! ## 1.  Tokens -/

/-- The mark that may stand at the front of a file and counts as a blank there. -/
def byteOrderMark : Char := '\ufeff'

/-- What is left behind characters that begin no token, at most `n` pieces of them. -/
def passOver (l : Lexicon) : Nat → Text → Text
  | 0, t => t
  | n + 1, t =>
    match l.scan t with
    | .ok _ => t
    | .error (_, reached) => passOver l n (t.drop (max reached 1))

/-- Characters that begin no token, as a mistake: the first attempt passed `start` blanks and got as
far as `reached`. -/
def wrong (l : Lexicon) (mark : Text) (start reached : Nat) (t : Text) : Tree × Text :=
  let rest := passOver l (t.length + 1) (t.drop (max reached (start + 1)))
  let text := (t.take (t.length - rest.length)).drop start
  (Tree.token Symbol.error (mark ++ t.take start) text, rest)

/-- A name that is a word of the language where that word may come next, and the token that was read
otherwise. -/
def classify (a : Automaton) (state : Nat) (l : Lexed) : Symbol :=
  if l.symbol = Symbol.name then
    match keyword? l.text with
    | some word => if (a.actions state word).isEmpty then l.symbol else word
    | none => l.symbol
  else l.symbol

/-- Reads the next token of a version, and tells what is left behind it.  Tokens that depend on what
stands around them are looked for first, then those that may come next, then all tokens. -/
def next (a : Automaton) (s : Stack) (v : Nat) : Tree × Text :=
  let top := s.top v
  let atFront := top.place.bytes = 0 && top.rest.head? = some byteOrderMark
  let mark := if atFront then [byteOrderMark] else []
  let t := top.rest.drop mark.length
  let isUseful (l : Lexed) : Bool :=
    !(mark.isEmpty && l.blanks.isEmpty && l.text.isEmpty) ||
      (s.hasAdvanced v && a.successor? top.state l.symbol ≠ some top.state)
  let layout :=
    if top.state = Stack.mistakeState then none
    else (Layout.scan? (a.layout top.state) t).filter isUseful
  match layout with
  | some l => (Tree.token l.symbol (mark ++ l.blanks) l.text, l.rest)
  | none =>
    let make (l : Lexed) : Tree × Text :=
      (Tree.token (classify a top.state l) (mark ++ l.blanks) l.text, l.rest)
    match (a.lexicon top.state).scan t with
    | .ok l => make l
    | .error _ =>
      let anything := a.lexicon Stack.mistakeState
      match anything.scan t with
      | .ok l => make l
      | .error (start, reached) => wrong anything mark start reached t

/-! ## 2.  Going on by a token -/

/-- What has come of the actions for a token. -/
inductive Progress where
  /-- The token was taken, or the version has ended. -/
  | taken
  /-- Phrases were closed, with the first version that came about in closing the last of them. -/
  | closed (newest : Option Nat)
  /-- Nothing was done. -/
  | stuck

/-- Does what a state says for a token. -/
def perform (a : Automaton) (v : Nat) (next : Tree) (rest : Text) :
    List Action → Progress → Reader → Reader × Progress
  | [], p, r => (r, p)
  | action :: more, p, r =>
    match action with
    | .shift state false =>
      ({ r with stack := r.stack.push v (some (next.setBetween false)) state rest }, .taken)
    | .shift _ true => perform a v next rest more p r
    | .skip =>
      let state := (r.stack.top v).state
      ({ r with stack := r.stack.push v (some (next.setBetween true)) state rest }, .taken)
    | .reduce n =>
      let count := r.stack.versions.length
      let s := r.stack.reduce a v (Automaton.production n)
      let before := match p with
        | .closed newest => newest
        | _ => none
      let newest := if count < s.versions.length then some count else before
      perform a v next rest more (.closed newest) { r with stack := s }
    | .accept => (r.accept v next, .taken)
    | .recover => (r.recover a v next rest, .taken)

/-- Goes on with a version until it has taken a token, has ended or waits, in at most `n` steps. -/
def take (a : Automaton) (v : Nat) (rest : Text) : Nat → Tree → Reader → Reader
  | 0, _, r => { r with stack := r.stack.halt v }
  | n + 1, next, r =>
    let actions := a.actions (r.stack.top v).state next.symbol
    match perform a v next rest actions .stuck r with
    | (r, .taken) => r
    | (r, .closed (some w)) => take a v rest n next { r with stack := r.stack.replace v w }
    | (r, .closed none) => { r with stack := r.stack.halt v }
    | (r, .stuck) =>
      let state := (r.stack.top v).state
      if (Symbol.isWord next.symbol) && !(a.actions state Symbol.name).isEmpty then
        take a v rest n (next.setSymbol Symbol.name) r
      else if state = Stack.mistakeState then r.recover a v next rest
      else { r with stack := r.stack.pause v next rest }

/-- The greatest number of phrases that are closed before a token, for each tree that is there. -/
def stepsPerNode : Nat := 16

/-- Goes on with a version by a token. -/
def advance (a : Automaton) (r : Reader) (v : Nat) : Reader :=
  let (next, rest) := Reader.next a r.stack v
  take a v rest (stepsPerNode * (r.stack.nodes.size + 64)) next r

/-! ## 3.  Comparing the versions -/

/-- Compares the version at a place, which stands in the given way, with those from the `j`th one
on that are before it.  Tells the place behind it, or what has become of that place. -/
def compareWith (standing : Stack.Standing) : Nat → Nat → Nat → Stack → Stack × Nat
  | 0, i, _, s => (s, i + 1)
  | n + 1, i, j, s =>
    if i ≤ j then (s, i + 1)
    else
      let s := s.settle j
      match (s.standing j).compare standing with
      | .takeLeft => (s.drop i, i)
      | .preferLeft | .none =>
        if s.mergeable j i then (s.merge j i, i) else compareWith standing n i (j + 1) s
      | .preferRight =>
        if s.mergeable j i then (s.merge j i, i)
        else compareWith standing n i (j + 1) (s.swap i j)
      | .takeRight => compareWith standing n (i - 1) j (s.drop j)

/-- The smaller one of two costs, where there may be none yet. -/
def smaller (cost : Nat) : Option Nat → Option Nat
  | none => some cost
  | some other => some (min cost other)

/-- Compares `n` versions from a place on with those before them, and tells the smallest cost of one
that is in no mistake. -/
def compareAll : Nat → Nat → Option Nat → Stack → Stack × Option Nat
  | 0, _, least, s => (s, least)
  | n + 1, i, least, s =>
    if (s.version i).isHalted then compareAll n i least (s.drop i)
    else
      let s := s.settle i
      let standing := s.standing i
      let least := if standing.inMistake then least else smaller standing.cost least
      let (s, i) := compareWith standing i i 0 s
      compareAll n i least s

/-- Mends the first of `n` versions from a place on, if none before it is followed, and drops the
other ones that wait. -/
def mendFirst (a : Automaton) : Nat → Nat → Bool → Option Nat → Reader → Reader × Option Nat
  | 0, _, _, least, r => (r, least)
  | n + 1, i, running, least, r =>
    match (r.stack.version i).status with
    | .paused next rest =>
      if !running && r.accepted < Stack.maxVersions then
        let least := some (r.stack.cost i)
        let r := { r with stack := r.stack.modify i ({ · with status := .active }) }
        mendFirst a n (i + 1) true least (r.mend a i next rest)
      else mendFirst a n i running least { r with stack := r.stack.drop i }
    | _ => mendFirst a n (i + 1) true least r

/-- Drops the versions that are not worth following, and tells the smallest cost of the others. -/
def condense (a : Automaton) (r : Reader) : Reader × Option Nat :=
  let (s, least) := compareAll r.stack.versions.length 0 none r.stack
  let s := s.keep Stack.maxVersions
  mendFirst a s.versions.length 0 false least { r with stack := s }

/-! ## 4.  Reading a file -/

/-- Goes on with a version until it has come as far as the others, in at most `n` steps. -/
def follow (a : Automaton) (v : Nat) : Nat → Nat → Reader → Reader × Nat
  | 0, farthest, r => (r, farthest)
  | n + 1, farthest, r =>
    if (r.stack.version v).isActive then
      let r := r.advance a v
      let place := (r.stack.top v).place.bytes
      if farthest < place || (0 < v && place = farthest) then (r, place)
      else follow a v n farthest r
    else (r, farthest)

/-- Goes on with all versions from `v` on, of which there may come to be `n`. -/
def followAll (a : Automaton) (steps : Nat) : Nat → Nat → Nat → Reader → Reader × Nat
  | 0, _, farthest, r => (r, farthest)
  | n + 1, v, farthest, r =>
    if v < r.stack.versions.length then
      let (r, farthest) := follow a v steps farthest r
      followAll a steps n (v + 1) farthest r
    else (r, farthest)

/-- Reads until no version is left, or the file has been read in the best way, in at most `n`
rounds. -/
def run (a : Automaton) (steps : Nat) : Nat → Nat → Reader → Option Tree
  | 0, _, r => r.finished
  | n + 1, farthest, r =>
    if r.stack.versions.isEmpty then r.finished
    else
      let (r, farthest) := followAll a steps steps 0 farthest r
      let (r, least) := r.condense a
      let isBest := match r.finished, least with
        | none, _ => false
        | some _, none => true
        | some t, some cost => decide (t.cost < cost)
      if isBest then r.finished else run a steps n farthest r

end Reader

/-- The tree of a file. -/
def Tree.read? (a : Automaton) (t : Text) : Option Tree :=
  let steps := 64 * (t.length + 16)
  Reader.run a steps steps 0 ⟨Stack.start t, none, 0⟩

end UiHarness.Syntax
