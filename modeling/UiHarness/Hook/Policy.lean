import UiHarness.Hook.Kebab
import UiHarness.Imports.Bucket

/-!
# Policies

A policy says whether and how the elements of a component are given hooks.  Each component that is
imported from the shared UI library has one: by default the pattern made from its name, with no
further condition.  Some components of the library are treated in another way, whatever local name
they are imported under, and components that render nothing themselves are recognised by the end
of their names.

* `Policy`: how the elements of a component are treated.
* `Override`: what is different for a component.
* `Policy.table`: the policies for the bindings of a bucket.
-/

namespace UiHarness.Hook

/-! ## 1.  Policies -/

/-- How the elements of a component are treated. -/
structure Policy where
  /-- The name of the component in the file. -/
  name : Text
  /-- The pattern of the identifiers; without one, there are no hooks. -/
  pattern : Option Text
  /-- Only elements that lead out of the application are given a hook. -/
  onlyExternal : Bool := false
  /-- Only elements with a special attribute are given a hook. -/
  skipUnlessSpecial : Bool := false
  /-- The component makes a hook by itself. -/
  builtIn : Bool := false
  /-- The component renders nothing. -/
  nonRendering : Bool := false
  /-- The module that the component comes from. -/
  source : Option Text := none
  deriving DecidableEq, Repr

/-- Whether hooks are given at all. -/
def Policy.injects (p : Policy) : Bool := p.pattern.isSome && !p.builtIn && !p.nonRendering

/-! ## 2.  Overrides -/

/-- What is different for a component; what is left out stays as it is. -/
structure Override where
  name : Option Text := none
  pattern : Option (Option Text) := none
  onlyExternal : Option Bool := none
  skipUnlessSpecial : Option Bool := none
  builtIn : Option Bool := none
  nonRendering : Option Bool := none
  source : Option (Option Text) := none
  deriving DecidableEq, Repr

/-- A policy with an override. -/
def Override.apply (o : Override) (p : Policy) : Policy :=
  { name := o.name.getD p.name
    pattern := o.pattern.getD p.pattern
    onlyExternal := o.onlyExternal.getD p.onlyExternal
    skipUnlessSpecial := o.skipUnlessSpecial.getD p.skipUnlessSpecial
    builtIn := o.builtIn.getD p.builtIn
    nonRendering := o.nonRendering.getD p.nonRendering
    source := o.source.getD p.source }

/-- Overrides by the names of components. -/
abbrev Overrides := List (Text × Override)

/-- The components that only arrange others: they get hooks if they are special. -/
def layoutComponents : List String := ["Box", "Grid", "Stack", "Paper", "Container"]

/-- The overrides for the components that only arrange others. -/
def layoutOverrides : Overrides :=
  layoutComponents.map fun n => (n.toList, { skipUnlessSpecial := some true })

/-- The overrides for the components of the shared UI library. -/
def libraryOverrides : Overrides :=
  let others : Overrides := [
    ("Link", { pattern := some (some (sectionMark ++ "-link")), onlyExternal := some true }),
    ("OtTable", { pattern := some (some (sectionMark ++ "-table")) }),
    ("DataDownloader", { pattern := some (some (sectionMark ++ "-downloader")) }),
    ("SectionItem", { builtIn := some true }),
    ("Typography", { pattern := some none }),
    ("Tooltip", { pattern := some none })]
  layoutOverrides ++ others

/-- Whether a component renders nothing itself, by its name. -/
def isNonRendering (name : Text) : Bool :=
  Text.endsWith name "Provider" || Text.endsWith name "Context"

/-! ## 3.  Policies of a file -/

/-- The policy for a binding. -/
def Policy.ofBinding (overrides : Overrides) (b : Binding) : Policy :=
  let p : Policy := {
    name := b.localName
    pattern := some (defaultPattern b.localName)
    source := some b.source }
  match Table.lookup b.exported overrides with
  | some o => o.apply p
  | none => { p with nonRendering := isNonRendering b.localName }

/-- The bindings of a bucket that get policies: those from the UI library that are not whole
modules, the first one of each local name. -/
def components (b : Bucket) : List Binding :=
  Bucket.firstOfEach [] (b.ui.filter fun b => !b.isNamespace)

/-- The policies for the bindings of a bucket, by local names. -/
def Policy.table (overrides : Overrides) (b : Bucket) : Table Policy :=
  Table.ofList ((components b).map fun b => (b.localName, ofBinding overrides b))

/-- The policies for a source file on its own. -/
def Policy.ofFile (path code : Text) : Table Policy :=
  table libraryOverrides (Bucket.ofFile path code)

/-- Policies by their names. -/
def Policy.tableOf (policies : List Policy) : Table Policy :=
  Table.ofList (policies.map fun p => (p.name, p))

end UiHarness.Hook
