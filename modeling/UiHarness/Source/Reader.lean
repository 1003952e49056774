import UiHarness.Disk
import UiHarness.Hook.Injection
import UiHarness.Imports.Scan

/-!
# Reading the sources of a unit

The sources of a widget are its main files, the components nearby that its body imports, the
components of the shared UI package that any of these import, and its queries.  The sources of a
page are all source files in its directory and its queries.  Files that cannot be read are left
out.

A source is held together with its path, so a text without a path cannot come up.
-/

namespace UiHarness.Source

/-- The text of a source file and the path it was read from. -/
structure File where
  text : Text
  path : Path
  deriving DecidableEq, Repr

/-- Source files by their keys. -/
abbrev Files := Table File

/-- The ends of the names of source files, in the order in which they are looked for. -/
def extensions : List Text := [".ts", ".tsx", ".js", ".jsx"]

/-- The main files of a widget. -/
def mainFiles : List Text := ["index", "Body", "Summary", "Description"]

/-! ## 1.  Finding files -/

/-- The file that a module nearby is read from: for each extension in turn, the file of that name
or the index file in the directory of that name. -/
def resolve? (d : Disk) (base : Path) (specifier : Text) : Except Fault (Option Path) :=
  let name := (Text.after? "./" specifier).getD specifier
  (extensions.flatMap fun e =>
    [base.child (name ++ e), (base.child name).child ("index" ++ e)]).findM? d.isFile

/-- The first readable file of a name in a directory, of the extensions in turn. -/
def withExtension? (d : Disk) (base : Path) (name : Text) : Except Fault (Option File) :=
  extensions.findSomeM? fun e => do
    let path := base.child (name ++ e)
    if ← d.isFile path then return (← d.readText? path).map fun text => ⟨text, path⟩
    else return none

/-- The places where a component of the shared UI package can be. -/
def packagePlaces (root : Path) (name : Text) : List Path :=
  let components := root.child "components"
  let providers := root.child "providers"
  let hooks := root.child "hooks"
  let around (directory : Path) : List Path :=
    [directory.child (name ++ ".tsx"), directory.child (name ++ ".ts"),
      (directory.child name).child "index.tsx", (directory.child name).child (name ++ ".tsx")]
  let sections :=
    if Text.contains name "Section" || name = ("SummaryItem" : Text) then
      [(components.child "Section").child (name ++ ".tsx"),
        (components.child "Section").child (name ++ ".ts"),
        (components.child "Summary").child (name ++ ".tsx")]
    else []
  around components ++ around providers ++
    [hooks.child (name ++ ".tsx"), hooks.child (name ++ ".ts")] ++ sections

/-- The file of a component of the shared UI package. -/
def findComponent? (d : Disk) (root : Path) (name : Text) : Except Fault (Option Path) :=
  (packagePlaces root name).findM? d.isFile

/-! ## 2.  Groups of sources -/

/-- Adds a file under a key, if it can be read. -/
def addRead (d : Disk) (files : Files) (key : Text) (path : Path) : Except Fault Files := do
  match ← d.readText? path with
  | some text => return files.insert key ⟨text, path⟩
  | none => return files

/-- The main files of a widget. -/
def main (d : Disk) (unit : Path) : Except Fault Files :=
  mainFiles.foldlM (fun files name => do
    match ← withExtension? d unit name with
    | some file => return files.insert name file
    | none => return files) Table.empty

/-- Adds a component nearby, unless its key is taken. -/
def addNearby (d : Disk) (unit : Path) (files : Files) (specifier : Text) :
    Except Fault Files := do
  match ← resolve? d unit specifier with
  | none => return files
  | some path =>
    let key := (Path.ofText specifier).name
    if files.contains key then return files else addRead d files key path

/-- Adds the components nearby that the body of a widget imports. -/
def addAllNearby (d : Disk) (unit : Path) (files : Files) : Except Fault Files :=
  match files.get? "Body" with
  | none => .ok files
  | some body => (Scan.nearby body.text).foldlM (addNearby d unit) files

/-- Components of the shared UI package that say nothing about the units that use them. -/
def plainComponents : List String :=
  ["Box", "Grid", "Stack", "Paper", "Container", "Typography", "Button", "IconButton", "Fab",
    "TextField", "Select", "Checkbox", "Table", "TableBody", "TableCell", "TableHead", "TableRow",
    "List", "ListItem", "Card", "CardContent", "Divider", "Dialog", "DialogTitle",
    "DialogContent", "DialogActions", "Tooltip", "Popover", "Menu", "MenuItem", "Tabs", "Tab",
    "CircularProgress", "LinearProgress", "Skeleton", "Alert", "Snackbar"]

/-- The components of the shared UI package that some sources import. -/
def packageFiles (d : Disk) (root : Path) (files : Files) : Except Fault Files :=
  let names := Scan.distinct (files.values.flatMap fun f => Scan.packageNames f.text)
  (names.filter fun n => n ∉ plainComponents.map String.toList).foldlM (fun found name => do
    match ← findComponent? d root name with
    | none => return found
    | some path => addRead d found (packageMark ++ name) path) Table.empty

/-- Adds the queries in a directory under their full names. -/
def addQueries (d : Disk) (directory : Path) (files : Files) : Except Fault Files := do
  if ← d.isDirectory directory then
    (d.names directory).foldlM (fun files name => do
      let path := directory.child name
      if path.suffix = (".gql" : Text) then
        if ← d.isFile path then addRead d files name path else return files
      else return files) files
  else return files

/-! ## 3.  Units -/

/-- The sources of a widget; those of the shared UI package only if its root is given. -/
def ofWidget (d : Disk) (unit : Path) (packageRoot : Option Path) : Except Fault Files := do
  let own ← addAllNearby d unit (← main d unit)
  let files ←
    match packageRoot with
    | some root =>
      if ← d.isDirectory root then
        pure (own.insertAll (← packageFiles d root own).entries)
      else pure own
    | none => pure own
  addQueries d unit files

/-- The sources of a page. -/
def ofPage (d : Disk) (page : Path) : Except Fault Files := do
  if ← d.isDirectory page then
    let own ← (d.names page).foldlM (fun files name => do
      let path := page.child name
      if path.suffix ∈ extensions then
        if (← d.isFile path) && !files.contains path.stem then addRead d files path.stem path
        else return files
      else return files) Table.empty
    addQueries d page own
  else return Table.empty

/-- The texts of sources. -/
def texts (files : Files) : Table Text := files.map File.text

/-- The paths of sources. -/
def paths (files : Files) : Table Text := files.map fun f => f.path.text

end UiHarness.Source

namespace UiHarness

/-- A unit with the sources that were read for it. -/
def UiUnit.ofFiles (f : UiUnit.Facts) (files : Source.Files) : UiUnit :=
  { kind := f.kind, name := f.name, category := f.category, root := f.root
    declaredId := f.declaredId, displayName := f.displayName
    sources := Source.texts files, paths := Source.paths files
    route := f.route, tabs := f.tabs
    located := fun key hk => by
      rw [Table.contains_iff]
      simpa [Source.texts, Source.paths] using hk }

end UiHarness
