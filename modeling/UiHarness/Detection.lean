import UiHarness.Artifact
import UiHarness.Source.Reader
import UiHarness.UnitName

/-!
# Detection

New units are found from the files that were added.  A file below the root of widgets belongs to
the widget of its second part, if the first part is a known entity; a file below the root of pages
belongs to the page of its first part.  A unit is taken up once, and only if it has source files
and neither of its generated files exists.

* `Detection.widgetPlace?`, `Detection.unitRoot?`: the unit that a file belongs to.
* `Detection.entryFacts`: what the entry file of a widget declares.
* `Detection.route?`, `Detection.tabs`: what the sources of a page declare.
* `Detection.fromFiles`: the new units for added files.
-/

namespace UiHarness.Detection

open Text

/-! ## 1.  Declarations in sources -/

/-- A text in quotes, which is not empty; the quotes need not agree. -/
def quoted? (t : Text) : Option (Text × Text) :=
  match Scan.quote? t with
  | none => none
  | some r =>
    match r.span (!Scan.isQuote ·) with
    | (c :: cs, _ :: r) => some (c :: cs, r)
    | _ => none

/-- A property of a given name, with the text that is its value. -/
def property? (name t : Text) : Option (Text × Text) := do
  let r ← after? (name ++ [':']) t
  quoted? (stripStart r)

/-- A path that a route is declared for. -/
def path? (t : Text) : Option (Text × Text) := do
  let r ← after? "path" t
  let r ←
    match stripStart r with
    | '=' :: r => some r
    | ':' :: r => some r
    | _ => none
  let r := stripStart r
  let r :=
    match r with
    | '\x7b' :: r => r
    | _ => r
  quoted? (stripStart r)

/-- The names of entry files. -/
def entryFiles : List Text := ["index.ts", "index.tsx"]

/-- The entry file of a widget. -/
def entryFile? (d : Disk) (unit : Path) : Except Fault (Option Path) :=
  (entryFiles.map unit.child).findM? d.isFile

/-- The identifier and the name that the entry file of a widget declares. -/
def entryFacts (d : Disk) (unit : Path) : Except Fault (Option Text × Option Text) := do
  match ← entryFile? d unit with
  | none => return (none, none)
  | some path =>
    match ← d.readText? path with
    | none => return (none, none)
    | some t =>
      return ((findFirst? (property? "id") t).map Prod.fst,
        (findFirst? (property? "name") t).map Prod.fst)

/-- The sources that are not queries. -/
def codes (sources : Table Text) : List (Text × Text) :=
  sources.entries.filter fun e => !Bucket.isQuery e.1

/-- The first route that sources declare. -/
def route? (sources : Table Text) : Option Text :=
  (codes sources).findSome? fun e => (findFirst? path? e.2).map Prod.fst

/-- The tab that an element declares. -/
def tabOf? (e : Syntax.Element) : Option Tab := do
  if e.component? ≠ some "Tab" then none
  let label ← e.stringAttribute? "label"
  let route ←
    match e.stringAttribute? "value" with
    | some value => if value.isEmpty then e.stringAttribute? "to" else some value
    | none => e.stringAttribute? "to"
  if label.isEmpty then none
  else some { name := .text label, route := .text route, label := .text label }

/-- The tabs that a source file declares; one that cannot be read declares none. -/
def tabsIn (path code : Text) : List Tab :=
  match Syntax.read path code with
  | .ok nodes => (Syntax.Element.list nodes).filterMap tabOf?
  | .error _ => []

/-- The tabs that sources declare.  A source without a path is read as the file of its name. -/
def tabs (sources paths : Table Text) : List Tab :=
  (codes sources).flatMap fun e => tabsIn ((paths.get? e.1).getD e.1) e.2

/-! ## 2.  Places -/

/-- The parts of a path below a root from the settings. -/
def partsBelow (file : Text) (root : Value) : Except Fault (Option (List Text)) := do
  let root ← Settings.pathOf root
  .ok ((Path.ofText file).relativeTo? root)

/-- The entity, the name and the root of the widget that a file belongs to. -/
def widgetPlace? (s : Settings) (file : Text) : Except Fault (Option (Text × Text × Text)) := do
  match ← partsBelow file s.sectionsRoot with
  | some (entity :: name :: _) =>
    if ← Settings.holds s.entities entity then
      let root ← Settings.pathOf s.sectionsRoot
      .ok (some (entity, name, ((root.child entity).child name).text))
    else .ok none
  | _ => .ok none

/-- The name and the root of the page that a file belongs to. -/
def pagePlace? (s : Settings) (file : Text) : Except Fault (Option (Text × Text)) := do
  match ← partsBelow file s.pagesRoot with
  | some (name :: _ :: _) =>
    let root ← Settings.pathOf s.pagesRoot
    .ok (some (name, (root.child name).text))
  | _ => .ok none

/-- The root of the unit that a file belongs to. -/
def unitRoot? (s : Settings) (file : Text) : Except Fault (Option Text) := do
  match ← widgetPlace? s file with
  | some (_, _, root) => .ok (some root)
  | none => .ok ((← pagePlace? s file).map Prod.snd)

/-! ## 3.  Units -/

/-- The widget at a root, if it has an entry file. -/
def widgetAt? (d : Disk) (s : Settings) (entity name root : Text) :
    Except Fault (Option UiUnit) := do
  let path ← s.inWorkspace (.ofText root)
  if (← entryFile? d path).isNone then .ok none
  else
    let (declaredId, displayName) ← entryFacts d path
    let packageRoot ← s.resolve s.packageRoot
    .ok (some (UiUnit.ofFiles
      { kind := .widget, name, category := entity, root := path.text, declaredId, displayName }
      (← Source.ofWidget d path (some packageRoot))))

/-- The page at a root, if it has source files. -/
def pageAt? (d : Disk) (s : Settings) (name root : Text) : Except Fault (Option UiUnit) := do
  let path ← s.inWorkspace (.ofText root)
  if ← d.isDirectory path then
    let files ← Source.ofPage d path
    if files.keys.all Bucket.isQuery then .ok none
    else
      .ok (some (UiUnit.ofFiles
        { kind := .page, name, category := UnitName.entityType name, root := path.text
          route := route? (Source.texts files)
          tabs := tabs (Source.texts files) (Source.paths files) } files))
  else .ok none

/-- A unit, unless one of its generated files exists. -/
def unlessServed (d : Disk) (s : Settings) (skipped : Text) (u : Option UiUnit) :
    Reporting (List UiUnit) := do
  match u with
  | none => return []
  | some u =>
    if ← Reporting.ofExcept (Artifact.exist d s u) then
      Reporting.sayIf s.isVerbose skipped
      return []
    return [u]

/-- The new widgets for files, apart from those whose roots have been seen. -/
def widgetsFrom (d : Disk) (s : Settings) (seen : List Text) :
    List Text → Reporting (List UiUnit)
  | [] => return []
  | file :: files => do
    match ← Reporting.ofExcept (widgetPlace? s file) with
    | none => widgetsFrom d s seen files
    | some (entity, name, root) =>
      if root ∈ seen then widgetsFrom d s seen files
      else
        let found ← Reporting.ofExcept (widgetAt? d s entity name root)
        let here ← unlessServed d s
          ("Skipping " ++ name ++ " (" ++ entity ++ "): tests already exist") found
        return here ++ (← widgetsFrom d s (root :: seen) files)

/-- The new pages for files, apart from those whose roots have been seen. -/
def pagesFrom (d : Disk) (s : Settings) (seen : List Text) :
    List Text → Reporting (List UiUnit)
  | [] => return []
  | file :: files => do
    match ← Reporting.ofExcept (pagePlace? s file) with
    | none => pagesFrom d s seen files
    | some (name, root) =>
      if root ∈ seen then pagesFrom d s seen files
      else
        let found ← Reporting.ofExcept (pageAt? d s name root)
        let here ← unlessServed d s
          ("Skipping page " ++ name ++ ": tests already exist") found
        return here ++ (← pagesFrom d s (root :: seen) files)

end UiHarness.Detection

namespace UiHarness

/-- The units found among added files. -/
structure Detection where
  widgets : List UiUnit
  pages : List UiUnit
  /-- The files that were added. -/
  added : List Text

/-- All units that were found. -/
def Detection.units (d : Detection) : List UiUnit := d.widgets ++ d.pages

/-- The new units for added files. -/
def Detection.fromFiles (d : Disk) (s : Settings) (added : List Text) : Reporting Detection := do
  let widgets ← Detection.widgetsFrom d s [] added
  let pages ← Detection.pagesFrom d s [] added
  return { widgets, pages, added }

end UiHarness
