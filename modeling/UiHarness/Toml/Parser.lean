import UiHarness.Toml.Quoted
import UiHarness.Toml.Scalar

/-!
# Reading TOML: documents

A document is a row of statements, one a line.  A statement gives a key a value, or it opens the
table of a key for the statements below it, or a further table in the list of tables of a key.

Values stand inside each other up to a fixed depth only, which a table uses up faster than a list.

What a statement has settled is not changed by later ones.  A list or a table that is written as a
value is closed: nothing is added to it.  A table is opened once; a table that a dotted key leads
through is not opened later, and a dotted key does not lead through a table that was opened.

* `Toml.parse`: the table of a document.
-/

namespace UiHarness.Toml

/-- The entries of a table. -/
abbrev Entries := List (Text × Value)

/-! ## 1.  Tables inside tables -/

/-- Changes the table that a key leads to, and makes the tables on the way that are missing.  Where
a list is on the way, its last member is meant, if lists may be entered at all. -/
def within (entersLists : Bool) (change : Entries → Option Entries) :
    Key → Entries → Option Entries
  | [], es => change es
  | name :: key, es =>
    match Table.lookup name es with
    | none => (within entersLists change key []).map fun inner => Table.put name (.table inner) es
    | some (.table inner) =>
      (within entersLists change key inner).map fun inner => Table.put name (.table inner) es
    | some (.list vs) =>
      match entersLists, vs.getLast? with
      | true, some (.table inner) =>
        (within entersLists change key inner).map fun inner =>
          Table.put name (.list (vs.dropLast ++ [.table inner])) es
      | _, _ => none
    | some _ => none

/-- Gives a new name its value. -/
def addNew (name : Text) (v : Value) (es : Entries) : Option Entries :=
  if (Table.lookup name es).isSome then none else some (Table.put name v es)

/-- Adds a table to the list of a name. -/
def addTable (name : Text) (es : Entries) : Option Entries :=
  match Table.lookup name es with
  | none => some (Table.put name (.list [.table []]) es)
  | some (.list vs) => some (Table.put name (.list (vs ++ [.table []])) es)
  | some _ => none

/-- Whether a value has members. -/
def hasMembers : Value → Bool
  | .list _ => true
  | .table _ => true
  | _ => false

/-- Whether a key leads to one of some keys or beyond it. -/
def reaches (key : Key) (keys : List Key) : Bool := keys.any fun k => k.isPrefixOf key

/-! ## 2.  Values -/

/-- A result, or the fault of a text that does not follow the rules. -/
def orMalformed {α : Type} : Option α → Except Failure α
  | some a => .ok a
  | none => .error .malformed

/-- How deep values can stand inside each other, counted in parts of a list or a table. -/
def depthLimit : Nat := 984

/-- The depth that is left inside a list or a table. -/
def inside (cost depth : Nat) : Except Failure Nat :=
  if cost ≤ depth then .ok (depth - cost) else .error .tooDeep

/-- What a list takes of the depth. -/
def listCost : Nat := 2

/-- What a table takes of the depth. -/
def tableCost : Nat := 3

mutual

/-- A value, with so much depth left and in at most `n` steps. -/
def value (depth : Nat) : Nat → Reader Value
  | 0, _ => .error .malformed
  | _, [] => .error .malformed
  | n + 1, c :: r =>
    if c = '"' then
      match Text.after? (triple '"') (c :: r) with
      | some r => do
        let (s, r) ← quotedLines r
        .ok (.text s, r)
      | none => do
        let (s, r) ← quoted r
        .ok (.text s, r)
    else if c = '\'' then
      match Text.after? (triple '\'') (c :: r) with
      | some r => do
        let (s, r) ← literalLines r
        .ok (.text s, r)
      | none => do
        let (s, r) ← literal r
        .ok (.text s, r)
    else if c = '[' then do
      let (vs, r) ← members (← inside listCost depth) n (← skipLines r)
      .ok (.list vs, r)
    else if c = '\x7b' then do
      let depth ← inside tableCost depth
      match skipBlanks r with
      | '\x7d' :: r => .ok (.table [], r)
      | r => do
        let (es, r) ← entries depth n [] [] r
        .ok (.table es, r)
    else
      match Text.after? "true" (c :: r), Text.after? "false" (c :: r) with
      | some r, _ => .ok (.bool true, r)
      | _, some r => .ok (.bool false, r)
      | none, none => scalar (c :: r)

/-- The members of a list up to its end, in at most `n` steps. -/
def members (depth : Nat) : Nat → Reader (List Value)
  | 0, _ => .error .malformed
  | n + 1, t =>
    match t with
    | ']' :: r => .ok ([], r)
    | t => do
      let (v, r) ← value depth n t
      match ← skipLines r with
      | ']' :: r => .ok ([v], r)
      | ',' :: r => do
        let (vs, r) ← members depth n (← skipLines r)
        .ok (v :: vs, r)
      | _ => .error .malformed

/-- The entries of a table that is written as a value up to its end, in at most `n` steps, with
those before them and the keys that are closed. -/
def entries (depth n : Nat) (before : Entries) (closed : List Key) : Reader Entries := fun t =>
  match n with
  | 0 => .error .malformed
  | n + 1 => do
    let (k, r) ← key t
    match r with
    | '=' :: r => do
      let (v, r) ← value depth n (skipBlanks r)
      if reaches k closed then .error .malformed
      else do
        let es ← orMalformed (within false (addNew (k.getLastD []) v) k.dropLast before)
        match skipBlanks r with
        | '\x7d' :: r => .ok (es, r)
        | ',' :: r =>
          entries depth n es (if hasMembers v then k :: closed else closed) (skipBlanks r)
        | _ => .error .malformed
    | _ => .error .malformed

end

/-! ## 3.  Statements -/

/-- What the statements so far have settled. -/
structure State where
  /-- The table of the document. -/
  data : Entries := []
  /-- Values with members, to which nothing is added. -/
  closed : List Key := []
  /-- Tables that are not opened again. -/
  opened : List Key := []
  /-- Tables that are not opened from the next heading on. -/
  pending : List Key := []
  /-- The table that was opened last. -/
  heading : Key := []

/-- Settles that the tables that dotted keys led through are not opened. -/
def State.settle (s : State) : State := { s with opened := s.pending ++ s.opened, pending := [] }

/-- Opens the table of a key. -/
def State.openTable (s : State) (k : Key) : Except Failure State := do
  if k ∈ s.opened || reaches k s.closed then .error .malformed
  else
    let data ← orMalformed (within true some k s.data)
    .ok { s with data, opened := k :: s.opened, heading := k }

/-- Opens a further table in the list of a key; what was settled of the one before is forgotten. -/
def State.openMember (s : State) (k : Key) : Except Failure State := do
  if reaches k s.closed then .error .malformed
  else
    let data ← orMalformed (within true (addTable (k.getLastD [])) k.dropLast s.data)
    .ok { s with
      data
      closed := s.closed.filter fun c => !k.isPrefixOf c
      opened := k :: s.opened.filter fun c => !k.isPrefixOf c
      heading := k }

/-- The keys that a dotted key leads through. -/
def through (k : Key) : List Key := (List.range k.length).tail.map fun i => k.take i

/-- Gives a key below the current heading a value. -/
def State.give (s : State) (k : Key) (v : Value) : Except Failure State := do
  let led := (through k).map (s.heading ++ ·)
  let parent := s.heading ++ k.dropLast
  if led.any (· ∈ s.opened) || reaches parent s.closed then .error .malformed
  else
    let data ← orMalformed (within true (addNew (k.getLastD []) v) parent s.data)
    .ok { s with
      data
      closed := if hasMembers v then (s.heading ++ k) :: s.closed else s.closed
      pending := s.pending ++ led }

/-- A heading, from behind its first bracket on. -/
def heading (s : State) (t : Text) : Except Failure (State × Text) :=
  match t with
  | '[' :: r => do
    let (k, r) ← key (skipBlanks r)
    let s ← s.settle.openMember k
    .ok (s, ← orMalformed (Text.after? "]]" r))
  | r => do
    let (k, r) ← key (skipBlanks r)
    let s ← s.settle.openTable k
    .ok (s, ← orMalformed (Text.after? "]" r))

/-- A key and its value. -/
def assignment (s : State) (t : Text) : Except Failure (State × Text) := do
  let (k, r) ← key t
  match r with
  | '=' :: r => do
    let (v, r) ← value depthLimit (2 * r.length + 2) (skipBlanks r)
    .ok (← s.give k v, r)
  | _ => .error .malformed

/-- A statement in front of the comment and the end of its line. -/
def statement (s : State) (t : Text) : Except Failure (State × Text) :=
  match t with
  | [] => .ok (s, t)
  | c :: r =>
    if c = '\n' || c = '#' then .ok (s, t)
    else if c = '[' then heading s r
    else assignment s t

/-- The statements of a text, in at most `n` lines. -/
def statements : Nat → State → Text → Except Failure Entries
  | 0, s, _ => .ok s.data
  | n + 1, s, t => do
    let (s, r) ← statement s (skipBlanks t)
    match ← skipComment (skipBlanks r) with
    | [] => .ok s.data
    | '\n' :: r => statements n s r
    | _ => .error .malformed

/-- The table of a document. -/
def parse (t : Text) : Except Failure Entries :=
  let t := Text.replaceAll t "\r\n" ['\n']
  statements (t.length + 1) {} t

end UiHarness.Toml
