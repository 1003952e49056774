import UiHarness.Hook.Transform
import UiHarness.Report
import UiHarness.UiUnit

/-!
# Hooks in a unit

The sources of a unit are given their hooks together: a component that one of them imports is known
in all.  The primary sources come first and must be readable; of the other ones, those that cannot
be read or need no hooks are passed over.  Sources from the shared UI package and queries neither
add to what is known nor are they changed.
-/

namespace UiHarness

/-- What the keys of sources from the shared UI package begin with. -/
def packageMark : Text := "ui/"

/-- Whether a source is from the shared UI package. -/
def isPackageSource (key : Text) : Bool := Text.startsWith key packageMark

namespace Hook

/-! ## 1.  Sources -/

/-- The primary sources of a widget. -/
def widgetSources : List String := ["Body", "Summary"]

/-- Sources that never get hooks. -/
def plainSources : List String := ["index", "Description"]

/-- The primary sources of a unit: those of a widget, or the main source of a page. -/
def primarySources (u : UiUnit) : List Text :=
  if u.isPage then if u.sources.contains u.name then [u.name] else ["index"]
  else widgetSources.map String.toList

/-- Whether a source holds a component that belongs to the unit without being primary. -/
def isComponentSource (primary : List Text) (key : Text) : Bool :=
  key ∉ primary && key ∉ plainSources.map String.toList && !Bucket.isQuery key &&
    !isPackageSource key

/-- The policies for all sources of a unit. -/
def policiesOf (u : UiUnit) : Table Policy :=
  Policy.table libraryOverrides
    (Bucket.ofSources (u.sources.filter fun key => !isPackageSource key) u.paths)

/-! ## 2.  Results -/

/-- What became of one source. -/
structure SourceReport where
  name : Text
  path : Text
  /-- How many hooks were planned. -/
  suggestions : Nat
  /-- How many elements got their hooks. -/
  applied : Nat
  /-- Whether the text was changed. -/
  isModified : Bool
  deriving DecidableEq, Repr

/-- How hooks were given. -/
inductive Method
  | fromSyntax
  | skipped
  deriving DecidableEq, Repr

/-- What became of all sources. -/
structure Summary where
  applied : Nat := 0
  failed : Nat := 0
  /-- The paths of the sources that were changed. -/
  modified : List Text := []
  method : Method := .skipped
  deriving DecidableEq, Repr

/-- What has been done so far. -/
structure Progress where
  summary : Summary := { method := .fromSyntax }
  reports : List SourceReport := []
  /-- The new texts of sources. -/
  updates : Table Text := Table.empty

/-- Adds what became of a source. -/
def Progress.add (p : Progress) (trial : Bool) (name path : Text) (t : Transform) : Progress :=
  { summary := { p.summary with
      applied := p.summary.applied + t.applied
      failed := if trial then p.summary.failed
        else p.summary.failed + (t.suggestions.length - t.applied)
      modified := if t.isModified then p.summary.modified ++ [path] else p.summary.modified }
    reports := p.reports ++ [{
      name, path, suggestions := t.suggestions.length, applied := t.applied
      isModified := t.isModified }]
    updates := if t.isModified then p.updates.insert name t.code else p.updates }

/-! ## 3.  The sources of a unit -/

/-- Gives one source its hooks.  Without text or path there is nothing to do; an unreadable source
matters only if it is required, and one without planned hooks is reported only then. -/
def injectSource (u : UiUnit) (policies : Table Policy) (trial verbose required : Bool)
    (p : Progress) (name : Text) : Reporting Progress := do
  let code := (u.sources.get? name).getD []
  let path := (u.paths.get? name).getD []
  if code.isEmpty || path.isEmpty then return p
  match transform policies u.sectionId path trial code with
  | .error (.source e) =>
    if required then throw (.source e)
    Reporting.sayIf verbose ("    Skipping " ++ name ++ ": " ++ e.message)
    return p
  | .error f => throw f
  | .ok t =>
    if !required && t.suggestions.isEmpty then return p
    for s in t.suggestions do
      Reporting.sayIf verbose
        ("    " ++ name ++ ": " ++ s.component ++ " at line " ++ Text.ofNat s.line ++ " -> " ++
          s.id)
    return p.add trial name path t

/-- Gives the sources of a unit their hooks: the unit afterwards, and what became of its
sources. -/
def inject (u : UiUnit) (trial verbose : Bool) :
    Reporting (UiUnit × Summary × List SourceReport) := do
  let policies := policiesOf u
  let names := Text.join ", " policies.keys
  Reporting.sayIf verbose
    ("  " ++ u.name ++ " uses components: " ++
      if names.isEmpty then ("(none detected)" : Text) else names)
  let primary := primarySources u
  let p ← primary.foldlM (injectSource u policies trial verbose true) {}
  let others := u.sources.keys.filter (isComponentSource primary)
  let p ← others.foldlM (injectSource u policies trial verbose false) p
  return (u.updated p.updates, p.summary, p.reports)

end Hook

end UiHarness
