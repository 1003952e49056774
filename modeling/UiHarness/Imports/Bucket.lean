import UiHarness.Syntax.File
import UiHarness.Table

/-!
# Imports by origin

The bindings of a file fall into three groups by the module they come from: the shared UI library,
the files nearby, and all other modules.  Each binding falls into exactly one group, and a group
keeps the order of the file.

* `Origin.of`: the group of a module.
* `Bucket`: bindings by group.
* `Bucket.ofBindings`: bindings put into their groups one after the other.
* `Bucket.ofFile`: the bindings of one file; a file that cannot be read has none.
* `Bucket.ofSources`: the bindings of several files, gathered file by file.
-/

namespace UiHarness

/-! ## 1.  Origins -/

/-- Where a module belongs. -/
inductive Origin
  | uiLibrary
  | nearby
  | elsewhere
  deriving DecidableEq, Repr

namespace Origin

/-- The modules of the shared UI library. -/
def libraryModules : List Text := ["@ot/ui", "ui", "@mui"]

/-- Whether a module is one of those given or lies inside one. -/
def isLibrary (libraries : List Text) (source : Text) : Bool :=
  libraries.any fun l => source = l || Text.startsWith source (l ++ ['/'])

/-- Whether a module is named by a path relative to the file. -/
def isNearby (source : Text) : Bool :=
  Text.startsWith source "./" || Text.startsWith source "../"

/-- The group of a module.  The library goes before the rest. -/
def of (libraries : List Text) (source : Text) : Origin :=
  if isLibrary libraries source then .uiLibrary
  else if isNearby source then .nearby
  else .elsewhere

end Origin

/-! ## 2.  Buckets -/

/-- Bindings by the origin of their modules. -/
structure Bucket where
  ui : List Binding := []
  nearby : List Binding := []
  elsewhere : List Binding := []
  deriving DecidableEq, Repr

namespace Bucket

/-- All bindings, group by group. -/
def all (b : Bucket) : List Binding := b.ui ++ b.nearby ++ b.elsewhere

/-- A bucket with one more binding, at the end of its group. -/
def add (libraries : List Text) (bucket : Bucket) (b : Binding) : Bucket :=
  match Origin.of libraries b.source with
  | .uiLibrary => { bucket with ui := bucket.ui ++ [b] }
  | .nearby => { bucket with nearby := bucket.nearby ++ [b] }
  | .elsewhere => { bucket with elsewhere := bucket.elsewhere ++ [b] }

/-- The bindings of a list by origin. -/
def ofBindings (libraries : List Text) (bindings : List Binding) : Bucket :=
  bindings.foldl (add libraries) {}

end Bucket

/-- The bindings of the import statements among nodes. -/
def Syntax.Node.bindingsOf (nodes : List Syntax.Node) : List Binding :=
  nodes.flatMap fun
    | .importStatement _ bindings => bindings
    | _ => []

/-- The bindings of a source file; none if it cannot be read. -/
def Binding.ofSource (path code : Text) : List Binding :=
  match Syntax.read path code with
  | .ok nodes => Syntax.Node.bindingsOf nodes
  | .error _ => []

namespace Bucket

/-- The bindings of one source file by origin. -/
def ofFile (path code : Text) : Bucket :=
  ofBindings Origin.libraryModules (Binding.ofSource path code)

/-- Drops the bindings of local names that occur before, in the list or among those given. -/
def firstOfEach (seen : List Text) : List Binding → List Binding
  | [] => []
  | b :: bs =>
    if b.localName ∈ seen then firstOfEach seen bs
    else b :: firstOfEach (b.localName :: seen) bs

/-- Whether a file holds a query and no code. -/
def isQuery (name : Text) : Bool := Text.endsWith name ".gql"

end Bucket

/-! ## 3.  Several files -/

/-- What has been gathered from some files. -/
structure Gathering where
  bucket : Bucket := {}
  /-- The local names of the bindings from the UI library that have come so far. -/
  seen : List Text := []

namespace Gathering

/-- Adds a binding from the UI library, unless its local name has come before. -/
def addUi (g : Gathering) (b : Binding) : Gathering :=
  if b.localName ∈ g.seen then g
  else {
    bucket := { g.bucket with ui := g.bucket.ui ++ [b] }
    seen := b.localName :: g.seen }

/-- Adds the bindings of a file. -/
def addFile (g : Gathering) (file : Bucket) : Gathering :=
  let g := file.ui.foldl addUi g
  { g with bucket := { g.bucket with
      nearby := g.bucket.nearby ++ file.nearby
      elsewhere := g.bucket.elsewhere ++ file.elsewhere } }

/-- Adds the bindings of a named source, unless it holds a query.  A source without a path is read
as the file of its name. -/
def addSource (paths : Table Text) (g : Gathering) (e : Text × Text) : Gathering :=
  if Bucket.isQuery e.1 then g
  else g.addFile (Bucket.ofFile ((paths.get? e.1).getD e.1) e.2)

end Gathering

/-- The bindings of several named sources.  Of the bindings from the UI library only the first of
each local name stays. -/
def Bucket.ofSources (sources paths : Table Text) : Bucket :=
  (sources.entries.foldl (Gathering.addSource paths) {}).bucket

end UiHarness
