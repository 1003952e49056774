import UiHarness.Number.Shortest
import UiHarness.Text.Quoted
import UiHarness.Table

/-!
# Values

Documents and settings hold values whose kind is not known beforehand: nothing, truth values,
integers of any size, floating point numbers, text, lists, tables, and moments of time.  A table
keeps the order of its keys.

* `Value.display`: a value as it stands in a running text.
* `Value.quoted`: a value as it stands inside another one.
* `Value.isTrue`: a value taken as a condition.
-/

namespace UiHarness

/-- What a moment of time consists of. -/
inductive MomentKind
  | date
  | time
  | dateTime
  deriving DecidableEq, Repr

/-- A value of any kind. -/
inductive Value
  | null
  | bool (b : Bool)
  | int (n : Int)
  | float (x : Binary64)
  | text (t : Text)
  | list (vs : List Value)
  | table (entries : List (Text × Value))
  /-- A date, a time, or both, as it is written in running text. -/
  | moment (k : MomentKind) (t : Text)
  deriving Repr

namespace Value

instance : Inhabited Value := ⟨null⟩

instance : Coe Text Value := ⟨text⟩

/-- The entry of a table with no entries of other keys, or nothing. -/
def get? (key : Text) : Value → Option Value
  | table entries => Table.lookup key entries
  | _ => none

/-- The name of a value's kind. -/
def kindName : Value → Text
  | null => "NoneType"
  | bool _ => "bool"
  | int _ => "int"
  | float _ => "float"
  | text _ => "str"
  | list _ => "list"
  | table _ => "dict"
  | moment .date _ => "datetime.date"
  | moment .time _ => "datetime.time"
  | moment .dateTime _ => "datetime.datetime"

/-- The name of a value's kind without what stands before its last dot. -/
def shortKindName (v : Value) : Text := (Text.splitAt '.' v.kindName).getLastD []

/-- A value taken as a condition: zero and what is empty do not hold. -/
def isTrue : Value → Bool
  | null => false
  | bool b => b
  | int n => n ≠ 0
  | float x => !x.isZero
  | text t => !t.isEmpty
  | list vs => !vs.isEmpty
  | table es => !es.isEmpty
  | moment _ _ => true

/-- The text that a value is. -/
def text? : Value → Option Text
  | text t => some t
  | _ => none

/-- The truth value that a value is. -/
def bool? : Value → Option Bool
  | bool b => some b
  | _ => none

/-- A value that may be missing. -/
def ofOption : Option Text → Value
  | none => null
  | some t => text t

mutual

/-- A value as it stands inside another one: text is quoted. -/
def quoted : Value → Text
  | null => "None"
  | bool b => if b then "True" else "False"
  | int n => Text.ofInt n
  | float x => x.text
  | text t => Text.quoted t
  | list vs => '[' :: quotedList vs ++ [']']
  | table es => '\x7b' :: quotedEntries es ++ ['\x7d']
  | moment _ t => t

/-- The members of a list, with commas between. -/
def quotedList : List Value → Text
  | [] => []
  | [v] => quoted v
  | v :: vs => quoted v ++ ", " ++ quotedList vs

/-- The entries of a table, with commas between. -/
def quotedEntries : List (Text × Value) → Text
  | [] => []
  | [(k, v)] => Text.quoted k ++ ": " ++ quoted v
  | (k, v) :: es => Text.quoted k ++ ": " ++ quoted v ++ ", " ++ quotedEntries es

end

/-- A value as it stands in a running text: text is taken as it is. -/
def display : Value → Text
  | text t => t
  | v => quoted v

end Value

end UiHarness
