import UiHarness.Settings
import UiHarness.Toml.Parser
import UiHarness.UnitEntry

/-!
# Settings files

Settings are read from the table `tool.widgetsmith` of a TOML file, those for the model from the
table `llm` in it.  Without a file, or if the file is no TOML or its table is none, all settings
have their defaults.

* `Settings.ofDocument`: the settings in a document.
* `Settings.read`: the settings that a path leads to.
-/

namespace UiHarness.Settings

/-- The name of settings files. -/
def fileName : Text := "pyproject.toml"

/-- The value of a key in a table; an empty table if there is none. -/
def tableIn (key : Text) (es : Toml.Entries) : Value := (Table.lookup key es).getD (.table [])

/-- The settings in a document. -/
def ofDocument (document : Toml.Entries) : Except Fault Settings :=
  match tableIn "tool" document with
  | .table tools => do
    let es := Value.textEntries (← (tableIn "widgetsmith" tools).entries)
    match tableIn "llm" es with
    | .table model => .ok (ofEntries es (.ofEntries model))
    | v => .error (v.lacks "items")
  | v => .error (v.lacks "get")

/-- The settings in the bytes of a file.  A file that is no TOML, or whose settings are no table,
changes nothing. -/
def ofBytes (bytes : ByteArray) : Except Fault Settings :=
  match Text.decode bytes with
  | .error u => .error (.undecodable u)
  | .ok t =>
    match Toml.parse t with
    | .error .malformed => .ok {}
    | .error (.longInteger digits) => .error (.badValue (digitLimitMessage digits))
    | .error .tooDeep => .error (.failure Toml.depthMessage)
    | .ok document =>
      match ofDocument document with
      | .error (.wrongKind _) => .ok {}
      | result => result

/-- The settings that a path leads to: a settings file, or a directory with one. -/
def read (d : Disk) (p : Path) : Except Fault Settings := do
  let file := if ← d.isDirectory p then p.child fileName else p
  if !(← d.contains file) then return {}
  match d.readBytes file with
  | .ok bytes => ofBytes bytes
  | .error _ => .ok {}

end UiHarness.Settings
