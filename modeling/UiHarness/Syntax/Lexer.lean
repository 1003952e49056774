import UiHarness.Syntax.Token

/-!
# Reading a token

Of the tokens that may come next the longest one is read.  All of them are matched at once, a
character at a time, until none of them can go on.  Of two tokens of one length the one of higher
precedence or rank is read, else the one with the smaller number.  A token is also not given up for
a longer one of lower precedence.

Blanks may stand before most tokens.  While only blanks have been read, such a token may still
begin anywhere; the pieces of a string have to begin at once.

* `Lexed`: a token that was read, and what is left.
* `Lexicon`: the tokens that may come next.
* `Lexicon.scan`: reads one of them.
-/

namespace UiHarness.Syntax

/-- A token that was read. -/
structure Lexed where
  /-- The number of the token. -/
  symbol : Nat
  /-- The blanks before it. -/
  blanks : Text
  /-- Its text. -/
  text : Text
  /-- What is left behind it. -/
  rest : Text
  deriving DecidableEq, Repr

/-- A token that may have been begun, with what has to follow. -/
structure Thread where
  /-- The number of the token. -/
  symbol : Nat
  /-- The precedence of the token. -/
  precedence : Int
  /-- The rank of the token. -/
  rank : Nat
  /-- What has to follow. -/
  pattern : Pattern

/-- Whether one token is preferred to another one of the same length. -/
def Thread.preferredTo (a b : Thread) : Bool :=
  if a.precedence ≠ b.precedence then b.precedence < a.precedence
  else if a.rank ≠ b.rank then b.rank < a.rank
  else a.symbol < b.symbol

/-- The token that ends here and is preferred to all others that do. -/
def Thread.ended? (threads : List Thread) : Option Thread :=
  threads.foldl
    (fun best thread =>
      if thread.pattern.acceptsEmpty then
        match best with
        | none => some thread
        | some other => if other.preferredTo thread then best else some thread
      else best)
    none

/-- What may follow a character in some of the tokens. -/
def Thread.step (c : Char) (threads : List Thread) : List Thread :=
  threads.flatMap fun thread => (thread.pattern.step c).map fun p => { thread with pattern := p }

/-- The tokens that may come next. -/
structure Lexicon where
  /-- All of them. -/
  entries : List Thread
  /-- Those before which blanks may stand. -/
  spaced : List Thread
  /-- Whether the file may end. -/
  mayEnd : Bool

/-- The tokens with these numbers.  Number zero stands for the end of the file. -/
def Lexicon.ofSymbols (symbols : List Nat) : Lexicon :=
  let entries : List (Thread × Bool) := symbols.filterMap fun n => do
    let token ← tokens[n]?
    let pattern ← token.pattern?
    return (⟨n, token.precedence, token.rank, pattern⟩, token.mayFollowBlanks)
  { entries := entries.map (·.1)
    spaced := (entries.filter (·.2)).map (·.1)
    mayEnd := symbols.contains 0 }

/-- How far a scan has come, counted in characters. -/
structure Scan where
  /-- The longest token so far, with its end. -/
  found : Option (Nat × Nat)
  /-- Where the token begins. -/
  start : Nat
  /-- The place of the next character. -/
  place : Nat

namespace Lexicon

/-- Goes on with a scan.  `between` says that only blanks were read and the token may still begin;
`mayEnd` that nothing but blanks was read, and the file may end. -/
def go (l : Lexicon) (between mayEnd : Bool) (threads : List Thread) (s : Scan) : Text → Scan
  | [] =>
    match Thread.ended? threads, mayEnd with
    | _, true => { s with found := some (0, s.place) }
    | some ended, false => { s with found := some (ended.symbol, s.place) }
    | none, false => s
  | c :: t =>
    let ended := Thread.ended? threads
    let s := match ended with
      | some ended => { s with found := some (ended.symbol, s.place) }
      | none => s
    let next := if c = '\x00' then [] else Thread.step c threads
    let blank := between && isSpace c
    if next.isEmpty && !blank then s
    else
      let precedence := next.foldl (fun p thread => max p thread.precedence)
        (if blank then 0 else -1)
      let goesOn := match ended with
        | none => true
        | some ended =>
          ended.precedence < precedence ||
            (ended.precedence = precedence && !next.isEmpty &&
              (!between || next.any (·.symbol = ended.symbol)))
      if goesOn then
        let skipped := next.isEmpty
        l.go blank (mayEnd && skipped) (if blank then next ++ l.spaced else next)
          { s with
            start := if skipped then s.place + 1 else s.start
            place := s.place + 1 } t
      else s

/-- Reads a token from the front of a text.  If there is none, says how many blanks were passed
and where reading stopped. -/
def scan (l : Lexicon) (t : Text) : Except (Nat × Nat) Lexed :=
  let s := l.go (!l.spaced.isEmpty) l.mayEnd l.entries ⟨none, 0, 0⟩ t
  match s.found with
  | some (symbol, stop) =>
    .ok ⟨symbol, t.take s.start, (t.drop s.start).take (stop - s.start), t.drop stop⟩
  | none => .error (s.start, s.place)

end Lexicon

end UiHarness.Syntax
