import UiHarness.Syntax.Layout
import UiHarness.Syntax.Symbol

/-!
# Automata

A file is read by an automaton.  A state says what has been read of the phrases that are open, and
for every token what to do next: go on to another state, or close a phrase that is complete, which
leads from the state before the phrase to a further one.  Where the grammar leaves open which
phrase a token belongs to, a state has more than one answer.

The tables of an automaton are computed from the grammar: its states are the sets of partly read
productions together with the tokens that may follow them, of which those are joined that answer
to no token in different ways.  They are kept as numbers whose digits are the entries.

* `Production`: a phrase and how many symbols it is made of.
* `Action`: what to do with a token.
* `Automaton`: the tables.
* `Automaton.actions`, `Automaton.successor?`: the answers.
-/

namespace UiHarness.Syntax

/-! ## 1.  Productions and actions -/

/-- What a phrase is made of. -/
structure Production where
  /-- The phrase. -/
  symbol : Symbol
  /-- The number of its parts. -/
  length : Nat
  /-- How much it is preferred to other phrases for the same text. -/
  rank : Int
  /-- The list of the names that its parts have in it. -/
  names : Nat
  deriving DecidableEq, Repr, Inhabited

/-- What to do with a token in a state. -/
inductive Action where
  /-- Takes the token and goes to a state.  Repeated phrases can be joined in two ways; the second
  way is only needed to repair a file. -/
  | shift (state : Nat) (repeated : Bool)
  /-- Takes the token, which stands between others, and stays in the state. -/
  | skip
  /-- Closes a phrase. -/
  | reduce (production : Nat)
  /-- Ends. -/
  | accept
  /-- Takes the token as part of a mistake. -/
  | recover
  deriving DecidableEq, Repr

/-- The action that a number stands for. -/
def Action.ofNat (n : Nat) : Action :=
  let value := n / 4
  match n % 4 with
  | 1 => shift (value / 2) (value % 2 = 1)
  | 2 => reduce value
  | _ =>
    match value with
    | 0 => skip
    | 1 => accept
    | _ => recover

/-! ## 2.  Tables -/

/-- The number at a place of a table. -/
def lookUp (width : Nat) (table : Array (Array Nat)) (i : Nat) : Nat :=
  (table.getD (i / width) #[]).getD (i % width) 0

/-- The tables of an automaton. -/
structure Automaton where
  /-- Sets of tokens.  A token is in a set if the bit of its number is one. -/
  sets : Array (Array Nat)
  /-- Lists of pairs of an action and a set of tokens. -/
  rows : Array (Array Nat)
  /-- Lists of pairs of a state and a phrase. -/
  gotos : Array (Array Nat)
  /-- For each state the numbers of its two lists, of the tokens that may come next, and of those
  among them that depend on what stands around them. -/
  states : Array (Array Nat)
  /-- Which tokens may come next. -/
  lexicons : List Lexicon
  /-- Which tokens that depend on what stands around them may come next. -/
  layouts : List Expected

namespace Automaton

/-- The entry of a state. -/
def entry (a : Automaton) (state : Nat) : Nat :=
  (lookUp 64 a.states (state / 10) >>> (36 * (state % 10))) % 0x1000000000

/-- The actions for a token among the pairs of a list, of which there are at most `n`. -/
def actionsIn (a : Automaton) (token : Symbol) : Nat → Nat → List Action
  | 0, _ => []
  | n + 1, pairs =>
    if pairs = 0 then []
    else
      let pair := pairs % 0x10000000
      let more := actionsIn a token n (pairs >>> 28)
      if (lookUp 64 a.sets (pair % 1024)).testBit token then .ofNat (pair / 1024) :: more
      else more

/-- What to do with a token in a state; nothing if the token cannot come next. -/
def actions (a : Automaton) (state : Nat) (token : Symbol) : List Action :=
  if token < Symbol.tokenCount then
    actionsIn a token 256 (lookUp 64 a.rows (a.entry state / 0x200000))
  else []

/-- The state for a phrase among the pairs of a list, of which there are at most `n`. -/
def gotoIn (phrase : Nat) : Nat → Nat → Option Nat
  | 0, _ => none
  | n + 1, pairs =>
    if pairs = 0 then none
    else if pairs % 256 = phrase then some (pairs % 0x1000000 / 256)
    else gotoIn phrase n (pairs >>> 24)

/-- The state that a symbol leads to from a state. -/
def successor? (a : Automaton) (state : Nat) (symbol : Symbol) : Option Nat :=
  if symbol < Symbol.tokenCount then
    match (a.actions state symbol).getLast? with
    | some (.shift next _) => some next
    | some .skip => some state
    | _ => none
  else if symbol < Symbol.skipped then
    gotoIn (symbol - Symbol.tokenCount) 512 (lookUp 64 a.gotos (a.entry state / 0x200 % 0x1000))
  else none

/-- The tokens that may come next in a state. -/
def lexicon (a : Automaton) (state : Nat) : Lexicon :=
  a.lexicons.getD (a.entry state / 0x10 % 0x20) ⟨[], [], false⟩

/-- The tokens among them that depend on what stands around them. -/
def layout (a : Automaton) (state : Nat) : Expected :=
  a.layouts.getD (a.entry state % 0x10) {}

end Automaton

end UiHarness.Syntax
