import UiHarness.Detection
import UiHarness.Json.Printer
import UiHarness.UnitEntry

/-!
# Units files

The units that were detected can be saved in a file and taken up from it later.  The file is a
table in JSON with a list of widgets and a list of pages; a list of units will do as well.

* `UnitsFile.text`: the text of the file for some units.
* `UnitsFile.read`: the entries in a file.
-/

namespace UiHarness.UnitsFile

/-- A unit as it is written. -/
def entryValue (u : UiUnit) : Value := (UnitEntry.ofUnit u).toValue

/-- The text of the file for the units that were detected. -/
def text (found : Detection) : Text :=
  Json.pretty (.table [
    ("widgets", .list (found.widgets.map entryValue)),
    ("pages", .list (found.pages.map entryValue))])

/-- The entries in a file. -/
def entriesOf (path : Path) (v : Value) : Except Fault (List Value) :=
  match v with
  | .table _ => do
    let widgets ← ((v.get? "widgets").getD (.list [])).members
    let pages ← ((v.get? "pages").getD (.list [])).members
    .ok (widgets ++ pages)
  | .list vs => .ok vs
  | _ => .error (.settings ("Unexpected units file format: " ++ path.text))

/-- The fault of an entry, told of its file. -/
def entryFault (path : Path) (f : Fault) : Fault :=
  let told : Fault := .settings ("Invalid unit entry in " ++ path.text ++ ": " ++ f.message)
  match f with
  | .noKey _ => told
  | .wrongKind _ => told
  | .badValue _ => told
  | .pathless _ _ => told
  | f => f

/-- The entries that some values are. -/
def unitsOf (path : Path) (es : List Value) : Except Fault (List UnitEntry) :=
  match es.mapM UnitEntry.ofValue with
  | .ok us => .ok us
  | .error f => .error (entryFault path f)

/-- The entries in a text. -/
def parse (path : Path) (t : Text) : Except Fault (List UnitEntry) :=
  match Json.parse t with
  | .ok v => do unitsOf path (← entriesOf path v)
  | .error (.defect d rest) =>
    .error (.settings
      ("Units file is not valid JSON: " ++ path.text ++ ": " ++
        (Json.Failure.defect d rest).message t))
  | .error f => .error (.json t f)

/-- The entries in a file. -/
def read (d : Disk) (path : Path) : Except Fault (List UnitEntry) := do
  if ← d.contains path then parse path (← d.readText path)
  else .error (.settings ("Units file not found: " ++ path.text))

end UiHarness.UnitsFile
