import UiHarness.Fault
import UiHarness.Text.Lowercase
import UiHarness.Value

/-!
# Units

A unit is a widget or a page of the application, with the texts of its source files and what is
known of it from them.  Every source has a path; the type of units says so, and `UiUnit.make` is
the only way in: it refuses sources without a path.

* `UiUnit.sectionId`: what the hooks of the unit begin with.
* `UiUnit.updated`: the unit with other texts of some sources.
-/

namespace UiHarness

/-! ## 1.  Units -/

/-- What a unit is. -/
inductive UnitKind
  | widget
  | page
  /-- A kind of another name, which is treated as a widget. -/
  | other (name : Text)
  deriving DecidableEq, Repr

/-- The name of a kind. -/
def UnitKind.text : UnitKind → Text
  | widget => "widget"
  | page => "page"
  | other name => name

/-- The kind of a name. -/
def UnitKind.ofText (t : Text) : UnitKind :=
  if t = ("widget" : Text) then .widget else if t = ("page" : Text) then .page else .other t

/-- A tab of a page.  What an entry in a file says of it may be of any kind. -/
structure Tab where
  name : Value
  route : Value
  label : Value
  deriving Repr

/-- What the facts of a unit are used for. -/
inductive UnitUse
  /-- Asking for an analysis. -/
  | analysis
  /-- Looking for words in the sources. -/
  | words
  /-- Looking for places for hooks. -/
  | hooks
  /-- Making the hooks. -/
  | hookIds
  /-- Asking for a test. -/
  | test
  /-- Writing files. -/
  | writing
  deriving DecidableEq, Repr

/-- A widget or a page. -/
structure UiUnit where
  kind : UnitKind
  name : Text
  /-- The entity of a widget, or the type of entity that a page shows. -/
  category : Text
  /-- The directory of the unit. -/
  root : Text
  /-- The identifier that its entry file declares. -/
  declaredId : Option Text
  /-- The name that its entry file declares. -/
  displayName : Option Text
  /-- The texts of its source files. -/
  sources : Table Text
  /-- The paths of its source files. -/
  paths : Table Text
  /-- The route of a page. -/
  route : Option Text
  /-- The tabs of a page. -/
  tabs : List Tab
  /-- What the facts cannot be used for, because an entry in a file gives values of other kinds. -/
  misfits : List (UnitUse × Fault) := []
  /-- Every source has a path. -/
  located : ∀ key ∈ sources.keys, paths.contains key = true

namespace UiUnit

/-- Refuses a use that the facts of a unit are not fit for. -/
def check (u : UiUnit) (use : UnitUse) : Except Fault Unit :=
  match u.misfits.find? (·.1 = use) with
  | some (_, f) => .error f
  | none => .ok ()

/-- Whether a unit is a page. -/
def isPage (u : UiUnit) : Bool := u.kind = .page

/-- What the hooks of a unit begin with: the declared identifier, or else the name in lower
case. -/
def sectionId (u : UiUnit) : Text :=
  match u.declaredId with
  | some id => if id.isEmpty then Text.lower u.name else id
  | none => Text.lower u.name

/-- The sources without a path. -/
def unlocated (sources paths : Table Text) : List Text :=
  sources.keys.filter fun key => !paths.contains key

theorem located_of_unlocated {sources paths : Table Text} (h : unlocated sources paths = []) :
    ∀ key ∈ sources.keys, paths.contains key = true := by
  intro key hk
  have hf := List.filter_eq_nil_iff.1 h key hk
  simpa using hf

/-- What is known of a unit besides its sources and their paths. -/
structure Facts where
  kind : UnitKind := .widget
  name : Text
  category : Text
  root : Text
  declaredId : Option Text := none
  displayName : Option Text := none
  route : Option Text := none
  tabs : List Tab := []

/-- A unit, unless some of its sources have no path. -/
def make (f : Facts) (sources paths : Table Text) : Except Fault UiUnit :=
  if h : unlocated sources paths = [] then
    .ok {
      kind := f.kind, name := f.name, category := f.category, root := f.root
      declaredId := f.declaredId, displayName := f.displayName
      sources, paths, route := f.route, tabs := f.tabs
      located := located_of_unlocated h }
  else .error (.pathless f.name (unlocated sources paths))

/-- The unit with other texts of some of its sources. -/
def updated (u : UiUnit) (updates : Table Text) : UiUnit :=
  { u with
    sources := u.sources.mapKeyed fun key t => (updates.get? key).getD t
    located := fun key hk => u.located key (by simpa using hk) }

/-- The texts of all sources. -/
def allText (u : UiUnit) : Text := Text.join ['\n'] u.sources.values

end UiUnit

end UiHarness
