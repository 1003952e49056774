import UiHarness.Syntax.Reduction

/-!
# Reading on behind a mistake

When the next token fits into no version, something is wrong with the file.  There are three ways
on.  A token may be missing: one is put in behind which the next token fits.  A phrase may be
wrong: what has been read since a state in which the token fits is taken as a mistake, and reading
goes on from there.  Or the token itself is wrong: it becomes part of a mistake, and the one behind
it is tried.  Each way has its cost, and the versions are compared by their costs.

* `Stack.closeAll`: closes the phrases that may be complete.
* `Reader.recoverTo`: goes back to a state in which the next token fits.
* `Reader.recover`: goes back, or takes the next token as part of a mistake.
* `Reader.mend`: all three ways.
-/

namespace UiHarness.Syntax

namespace Stack

/-! ## 1.  Closing all phrases that may be complete -/

/-- All tokens but the end of the file. -/
def allTokens : List Symbol := (List.range Symbol.tokenCount).tail

/-- What may happen in a state. -/
structure Prospect where
  /-- Whether a token can be taken. -/
  takes : Bool
  /-- The phrases that can be closed. -/
  closes : List Production

/-- Adds a phrase to be closed, unless one of the same kind and length is there. -/
def addClosing (ps : List Production) (p : Production) : List Production :=
  if p.length = 0 || ps.any fun q => q.symbol = p.symbol && q.length = p.length then ps
  else ps ++ [p]

/-- What may happen in a state before one of some tokens. -/
def prospect (a : Automaton) (state : Nat) (tokens : List Symbol) : Prospect :=
  (tokens.flatMap (a.actions state)).foldl
    (fun found action =>
      match action with
      | .shift _ repeated => { found with takes := found.takes || !repeated }
      | .recover => { found with takes := true }
      | .reduce n => { found with closes := addClosing found.closes (Automaton.production n) }
      | .skip | .accept => found)
    ⟨false, []⟩

/-- Closes each of some phrases in a version.  Of the last one the first new version is told. -/
def reduceEach (a : Automaton) (s : Stack) (v : Nat) (ps : List Production) :
    Stack × Option Nat :=
  ps.foldl
    (fun (s, _) p =>
      let count := s.versions.length
      let s := s.reduce a v p
      (s, if count < s.versions.length then some count else none))
    (s, none)

/-- Closes the phrases that may be complete in the versions from `v` on, in at most `n` steps.
`first` is the number of versions at the beginning, `start` the version to begin with, `spare` the
number of times that a new version takes the place of the one it came from.  If `tokens` are the
ones that can come next, and not all of them, a version in which nothing can be done is dropped. -/
def closeFrom (a : Automaton) (tokens : List Symbol) (all : Bool) (start first : Nat) :
    Nat → Nat → Nat → Bool → Stack → Stack × Bool
  | 0, _, _, can, s => (s, can)
  | n + 1, spare, v, can, s =>
    let count := s.versions.length
    if count ≤ v then (s, can)
    else
      match s.partner? v ((List.range v).drop first) with
      | some w => closeFrom a tokens all start first n (spare - 1) v can (s.merge w v)
      | none =>
        let found := prospect a (s.top v).state tokens
        let (s, newest) := s.reduceEach a v found.closes
        let next := if v = start then count else v + 1
        if found.takes then closeFrom a tokens all start first n (spare - 1) next true s
        else
          match newest with
          | some w =>
            if 0 < spare then
              closeFrom a tokens all start first n (spare - 1) v can (s.replace v w)
            else
              closeFrom a tokens all start first n 0 next can (if all then s else s.drop v)
          | none =>
            closeFrom a tokens all start first n (spare - 1) next can
              (if all then s else s.drop v)

/-- The greatest number of steps in closing phrases. -/
def maxClosings : Nat := 1000

/-- Closes the phrases that may be complete in a version before a token, or before any one, and
says whether the token can then be taken. -/
def closeAll (a : Automaton) (s : Stack) (v : Nat) (token : Option Symbol) : Stack × Bool :=
  closeFrom a ((token.map ([·])).getD allTokens) token.isNone v s.versions.length
    maxClosings maxVersions v false s

/-! ## 2.  Missing tokens -/

/-- Whether a phrase can be closed in a state before a token. -/
def closes (a : Automaton) (state : Nat) (token : Symbol) : Bool :=
  match a.actions state token with
  | .reduce _ :: _ => true
  | _ => false

/-- Adds a version with a token put in behind another version, if some token can be missing there:
one that completes a phrase before the next token, so that this one can be taken then. -/
def insertMissing (a : Automaton) (v : Nat) (next : Symbol) : List Symbol → Stack → Stack × Bool
  | [], s => (s, false)
  | symbol :: more, s =>
    let top := s.top v
    match a.successor? top.state symbol with
    | some state =>
      if state ≠ top.state && closes a state next then
        let w := s.versions.length
        let s := (s.add { s.version v with landmarks := none }).push w
          (some (Tree.absent symbol)) state top.rest
        match s.closeAll a w (if next = Symbol.fileEnd then none else some next) with
        | (s, true) => (s, true)
        | (s, false) => insertMissing a v next more s
      else insertMissing a v next more s
    | none => insertMissing a v next more s

/-- Breaks reading off in each of some versions.  Behind the first one where it is possible, a
missing token is put in. -/
def breakOff (a : Automaton) (next : Symbol) : List Nat → Bool → Stack → Stack
  | [], _, s => s
  | v :: vs, inserted, s =>
    let (s, inserted) :=
      if inserted then (s, true) else insertMissing a v next allTokens s
    breakOff a next vs inserted (s.push v none mistakeState (s.top v).rest)

/-- Joins the `n` versions from `w` on with an earlier one. -/
def mergeAll (v w : Nat) : Nat → Stack → Stack
  | 0, s => s
  | n + 1, s => mergeAll v w n (if s.mergeable v w then s.merge v w else s)

/-! ## 3.  Going back to a state -/

/-- Makes mistakes of what was taken off the stack before a state.  `last` is the version that was
made ready last. -/
def resumeAt (state : Nat) (rest : Text) : List Slice → Option Nat → Stack → Stack × Bool
  | [], last, s => (s, last.isSome)
  | slice :: slices, last, s =>
    let v := slice.version
    if last = some v then resumeAt state rest slices last s
    else if (s.top v).state ≠ state then resumeAt state rest slices last (s.halt v)
    else
      let (s, before) := s.popMistake v
      let (parts, behind) :=
        Tree.cutTrailing (((before.head?.map Tree.parts).getD []) ++ slice.trees)
      let mistake :=
        if parts.isEmpty then [] else [(Tree.node Symbol.error 0 parts).setBetween true]
      resumeAt state rest slices (some v) (s.pushAll v state rest (mistake ++ behind))

/-- Goes back over `depth` trees to a state, and says whether it has been reached. -/
def recoverTo (s : Stack) (v depth state : Nat) : Stack × Bool :=
  let rest := (s.top v).rest
  let (s, slices) := s.pop v depth
  resumeAt state rest slices none s

/-- Drops the versions from `n` on that are not followed. -/
def dropIdle (s : Stack) (n : Nat) : Stack :=
  { s with versions := s.versions.take n ++ (s.versions.drop n).filter Version.isActive }

end Stack

namespace Reader

/-! ## 4.  Which way is better -/

/-- Whether one of some versions is so good that another one of the given standing need not be
followed. -/
def outdone (v : Nat) (standing : Stack.Standing) : List Nat → Stack → Stack × Bool
  | [], s => (s, false)
  | w :: ws, s =>
    if w = v || !(s.version w).isActive || (s.top w).place.bytes < (s.top v).place.bytes then
      outdone v standing ws s
    else
      let s := s.settle w
      match standing.compare (s.standing w) with
      | .takeRight => (s, true)
      | .preferRight => if s.mergeable w v then (s, true) else outdone v standing ws s
      | .takeLeft | .preferLeft | .none => outdone v standing ws s

/-- Whether there is a better way than going on with a version at a cost. -/
def hasBetter (r : Reader) (v cost : Nat) : Reader × Bool :=
  if (r.finished.map (fun t => decide (t.cost ≤ cost))).getD false then (r, true)
  else
    let s := r.stack.settle v
    let standing := ⟨cost, s.countSinceMistake v, (s.top v).rank, false⟩
    let (s, found) := outdone v standing (List.range s.versions.length) s
    ({ r with stack := s }, found)

/-! ## 5.  Ways on -/

/-- Goes back to the first of some states in which a token fits, as long as there is no better way.
`count` is the number of versions at the beginning, `skipped` says whether the version ends with
a part of a mistake, and `cost` is its cost. -/
def goBack (a : Automaton) (v : Nat) (next : Symbol) (count : Nat) (skipped : Bool) (cost : Nat) :
    List Landmark → Reader → Reader × Bool
  | [], r => (r, false)
  | l :: ls, r =>
    let place := (r.stack.top v).place
    let isThere := (List.range count).any fun w =>
      (r.stack.top w).state = l.state && (r.stack.top w).place.bytes = place.bytes
    if l.state = Stack.mistakeState || l.place.bytes = place.bytes || isThere then
      goBack a v next count skipped cost ls r
    else
      match r.hasBetter v (cost + l.depth * Cost.tree + Cost.text (place.sub l.place)) with
      | (r, true) => (r, false)
      | (r, false) =>
        if (a.actions l.state next).isEmpty then goBack a v next count skipped cost ls r
        else
          match r.stack.recoverTo v (if skipped then l.depth + 1 else l.depth) l.state with
          | (s, true) => ({ r with stack := s }, true)
          | (s, false) => goBack a v next count skipped cost ls { r with stack := s }

/-- Takes a token as part of a mistake, together with the part that was taken before it. -/
def skip (a : Automaton) (s : Stack) (v : Nat) (next : Tree) (rest : Text) (skipped : Bool) :
    Stack :=
  let next :=
    match (a.actions Stack.startState next.symbol).getLast? with
    | some .skip => next.setBetween true
    | _ => next
  let part := Tree.node Symbol.skipped 0 [next]
  if skipped then
    match s.pop v 1 with
    | (s, slice :: _) =>
      ((s.keep (slice.version + 1)).replace v slice.version).push v
        (some (Tree.node Symbol.skipped 0 (slice.trees ++ [part]))) Stack.mistakeState rest
    | (s, []) => s.push v (some part) Stack.mistakeState rest
  else s.push v (some part) Stack.mistakeState rest

/-- Reads on in the middle of a mistake: goes back, if this is the better way, and takes the next
token as part of the mistake. -/
def recover (a : Automaton) (r : Reader) (v : Nat) (next : Tree) (rest : Text) : Reader :=
  let count := r.stack.versions.length
  let stack := r.stack.settle v
  let skipped := decide (0 < stack.countSinceMistake v)
  let cost := stack.cost v
  let landmarks := if next.isMistake then [] else ((stack.version v).landmarks).getD []
  let (r, found) := { r with stack }.goBack a v next.symbol count skipped cost landmarks
  let r := { r with stack := r.stack.dropIdle count }
  if next.symbol = Symbol.fileEnd then
    let broken := Tree.node Symbol.error 0 []
    { r with stack := r.stack.push v (some broken) Stack.startState rest }.accept v next
  else if found && Stack.maxVersions < r.stack.versions.length then
    { r with stack := r.stack.halt v }
  else
    match r.hasBetter v (cost + Cost.tree + Cost.text next.total) with
    | (r, true) => { r with stack := r.stack.halt v }
    | (r, false) => { r with stack := skip a r.stack v next rest skipped }

/-- Reads on where the next token does not fit: puts in a missing token, goes back, or takes the
token as part of a mistake. -/
def mend (a : Automaton) (r : Reader) (v : Nat) (next : Tree) (rest : Text) : Reader :=
  let first := r.stack.versions.length
  let (s, _) := r.stack.closeAll a v none
  let added := s.versions.length - first
  let s := s.breakOff a next.symbol (v :: (List.range added).map (first + ·)) false
  let s := s.mergeAll v first added
  { r with stack := s.noteLandmarks v }.recover a v next rest

end Reader

end UiHarness.Syntax
