import UiHarness.Json.Printer
import UiHarness.UiUnit

/-!
# Units in files

A units file holds units as entries in JSON.  An entry has the facts of a unit under fixed keys, its
sources and their paths as tables, and, for a page, its route and its tabs.  Reading an entry is
lenient about what is missing but for the name: what is absent, nothing or empty counts as empty.
Where a table is due, a list of pairs will do.  The facts may be values of any kind; only when they
are used does it show that some of them do not fit.

* `UnitEntry`: an entry.
* `UnitEntry.ofValue`, `UnitEntry.toValue`: reading and writing entries.
* `UnitEntry.ofUnit`: the entry of a unit.
* `UnitEntry.toUnit`: the unit of an entry, with what its facts are not fit for.
-/

namespace UiHarness

namespace Value

/-! ## 1.  Tables from other values -/

/-- The amount that a value is as a number, in units of the smallest positive floating point
number. -/
def units? : Value → Option Int
  | bool b => some (if b then Binary64.one else 0)
  | int n => some (n * Binary64.one)
  | float (.finite negative units) => some (Binary64.signed negative units)
  | _ => none

/-- Whether two values are one key of a table: the same text, nothing, or numbers of the same
amount. -/
def isSameKey : Value → Value → Bool
  | text a, text b => a = b
  | null, null => true
  | float (.infinite a), float (.infinite b) => a = b
  | a, b =>
    match a.units?, b.units? with
    | some m, some n => m = n
    | _, _ => false

/-- The value of a key among pairs. -/
def valueOf? (key : Value) (es : List (Value × Value)) : Option Value :=
  (es.find? fun e => e.1.isSameKey key).map Prod.snd

/-- Gives a key a value: in its place, or at the end if it is new. -/
def putKey (key value : Value) : List (Value × Value) → List (Value × Value)
  | [] => [(key, value)]
  | e :: es => if e.1.isSameKey key then (e.1, value) :: es else e :: putKey key value es

/-- Texts joined by a separator; a member of another kind cannot be joined. -/
def joined (separator : Text) (vs : List Value) : Except Fault Text := do
  let ts ← vs.zipIdx.mapM fun (v, i) =>
    match v with
    | text t => .ok t
    | v =>
      .error (.wrongKind
        ("sequence item " ++ Text.ofNat i ++ ": expected str instance, " ++ v.kindName ++
          " found"))
  .ok (Text.join separator ts)

/-- The fault of going through the members of a value that has none. -/
def notIterable (v : Value) : Fault :=
  .wrongKind ("'" ++ v.kindName ++ "' object is not iterable")

/-- The fault of asking a value for a property that its kind does not have. -/
def lacks (v : Value) (property : Text) : Fault :=
  .noProperty ("'" ++ v.kindName ++ "' object has no attribute '" ++ property ++ ['\''])

/-- The members of a value: those of a list, the keys of a table, the characters of a text. -/
def members : Value → Except Fault (List Value)
  | list vs => .ok vs
  | table es => .ok (es.map fun e => text e.1)
  | text t => .ok (t.map fun c => text [c])
  | v => .error (notIterable v)

/-- A member of a list as the entry of a table. -/
def pair (index : Nat) (v : Value) : Except Fault (Value × Value) :=
  match v.members with
  | .error _ =>
    .error (.wrongKind
      ("cannot convert dictionary update sequence element #" ++ Text.ofNat index ++
        " to a sequence"))
  | .ok [a, b] => .ok (a, b)
  | .ok vs =>
    .error (.badValue
      ("dictionary update sequence element #" ++ Text.ofNat index ++ " has length " ++
        Text.ofNat vs.length ++ "; 2 is required"))

/-- The members of a list as entries of a table.  A key must not have members that can change. -/
def pairsFrom (index : Nat) : List Value → Except Fault (List (Value × Value))
  | [] => .ok []
  | v :: vs => do
    let (key, value) ← pair index v
    match key with
    | list _ | table _ => .error (.wrongKind ("unhashable type: '" ++ key.kindName ++ ['\'']))
    | _ => .ok ((key, value) :: (← pairsFrom (index + 1) vs))

/-- The entries of a list of pairs; of two values for a key the later one counts. -/
def distinct (es : List (Value × Value)) : List (Value × Value) :=
  es.foldl (fun found e => putKey e.1 e.2 found) []

/-- The entries of a table, or of what can be taken as one. -/
def entries (v : Value) : Except Fault (List (Value × Value)) :=
  match v with
  | table es => .ok (es.map fun e => (text e.1, e.2))
  | list vs => do .ok (distinct (← pairsFrom 0 vs))
  | text t => do .ok (distinct (← pairsFrom 0 (t.map fun c => text [c])))
  | v => .error (notIterable v)

/-- The entries of a table; what is nothing or empty is a table without entries. -/
def entriesIfAny (v : Value) : Except Fault (List (Value × Value)) :=
  if v.isTrue then v.entries else .ok []

/-- The entries whose keys are texts. -/
def textEntries (es : List (Value × Value)) : List (Text × Value) :=
  es.filterMap fun e => e.1.text?.map (·, e.2)

/-- A key as the text that it is written as. -/
def keyText : Value → Text
  | text t => t
  | v => Json.atom v

end Value

/-! ## 2.  Tabs -/

namespace Tab

/-- A tab as a table. -/
def toValue (t : Tab) : Value :=
  .table [("name", t.name), ("route", t.route), ("label", t.label)]

/-- The keys of a tab. -/
def keys : List Text := ["name", "route", "label"]

/-- Names in quotes, with commas and a word before the last one. -/
def enumerated : List Text → Text
  | [] => []
  | [a] => Text.quoted a
  | [a, b] => Text.quoted a ++ " and " ++ Text.quoted b
  | a :: b :: rest => Text.join ", " ((a :: b :: rest).dropLast.map Text.quoted) ++ ", and " ++
      Text.quoted ((a :: b :: rest).getLastD [])

/-- The tab that a table describes: it has the keys of a tab and no others. -/
def ofValue (v : Value) : Except Fault Tab :=
  match v with
  | .table es =>
    match es.find? fun e => e.1 ∉ keys, keys.filter fun k => k ∉ es.map Prod.fst with
    | some (k, _), _ =>
      .error (.wrongKind
        ("PageTab.__init__() got an unexpected keyword argument " ++ Text.quoted k))
    | none, k :: ks =>
      let plural : Text := if ks.isEmpty then [] else ['s']
      .error (.wrongKind
        ("PageTab.__init__() missing " ++ Text.ofNat (ks.length + 1) ++
          " required positional argument" ++ plural ++ ": " ++ enumerated (k :: ks)))
    | none, [] =>
      .ok {
        name := (v.get? "name").getD .null
        route := (v.get? "route").getD .null
        label := (v.get? "label").getD .null }
  | v =>
    .error (.wrongKind
      ("widgetsmith.support.models.PageTab() argument after ** must be a mapping, not " ++
        v.kindName))

end Tab

/-! ## 3.  Entries -/

/-- A unit as an entry in a file gives it. -/
structure UnitEntry where
  kind : Value
  name : Value
  category : Value
  root : Value
  declaredId : Value
  displayName : Value
  /-- The sources by their names. -/
  sources : List (Value × Value)
  /-- The paths of the sources. -/
  paths : List (Value × Value)
  route : Value
  tabs : List Tab
  /-- Every source has a path. -/
  located : ∀ e ∈ sources, (Value.valueOf? e.1 paths).isSome = true

namespace UnitEntry

/-- A table of texts as pairs of values. -/
def pairsOf (t : Table Text) : List (Value × Value) :=
  t.entries.map fun e => (.text e.1, .text e.2)

theorem valueOf?_pairsOf (key : Text) (t : Table Text) :
    Value.valueOf? (.text key) (pairsOf t) = (t.get? key).map Value.text := by
  unfold Value.valueOf? pairsOf Table.get?
  induction t.entries with
  | nil => rfl
  | cons e es ih =>
    by_cases h : e.1 = key
    · simp [Value.isSameKey, Table.lookup, h]
    · simpa [Value.isSameKey, Table.lookup, h] using ih

/-- The entry of a unit. -/
def ofUnit (u : UiUnit) : UnitEntry where
  kind := .text u.kind.text
  name := .text u.name
  category := .text u.category
  root := .text u.root
  declaredId := .ofOption u.declaredId
  displayName := .ofOption u.displayName
  sources := pairsOf u.sources
  paths := pairsOf u.paths
  route := .ofOption u.route
  tabs := u.tabs
  located := by
    intro e he
    obtain ⟨f, hf, rfl⟩ := List.mem_map.1 he
    rw [valueOf?_pairsOf, Option.isSome_map]
    exact u.located f.1 (List.mem_map.2 ⟨f, hf, rfl⟩)

/-- Whether an entry is the one of a page. -/
def isPage (e : UnitEntry) : Bool := e.kind.text? = some "page".toList

/-- A table as a value; its keys are written as texts. -/
def tableValue (es : List (Value × Value)) : Value :=
  .table (es.map fun e => (e.1.keyText, e.2))

/-- An entry as a value. -/
def toValue (e : UnitEntry) : Value :=
  let facts : List (Text × Value) := [
    ("type", e.kind),
    ("name", e.name),
    ("entity", e.category),
    ("path", e.root),
    ("id", e.declaredId),
    ("displayName", e.displayName),
    ("sources", tableValue e.sources),
    ("sourcePaths", tableValue e.paths)]
  let more : List (Text × Value) :=
    if e.isPage then [("route", e.route), ("tabs", .list (e.tabs.map Tab.toValue))] else []
  .table (facts ++ more)

/-- The names of the sources that have no path. -/
def unlocated (sources paths : List (Value × Value)) : List Value :=
  (sources.filter fun e => (Value.valueOf? e.1 paths).isNone).map Prod.fst

/-- The fault of sources without a path. -/
def unlocatedFault (name : Value) (keys : List Value) : Fault :=
  match Value.joined ", " keys with
  | .ok _ => .pathless name.display (keys.filterMap Value.text?)
  | .error f => f

/-- The entry with other texts of some sources, and with further sources if they have paths. -/
def withSources (e : UnitEntry) (updates : List (Text × Text)) : Except Fault UnitEntry :=
  let sources := updates.foldl (fun es u => Value.putKey (.text u.1) (.text u.2) es) e.sources
  if located : ∀ s ∈ sources, (Value.valueOf? s.1 e.paths).isSome = true then
    .ok { e with sources, located }
  else .error (unlocatedFault e.name (unlocated sources e.paths))

/-- The value of a key, if it holds as a condition, or else that of another key. -/
def firstTrue (v : Value) (a b : Text) : Value :=
  let first := (v.get? a).getD .null
  if first.isTrue then first
  else
    let second := (v.get? b).getD .null
    if second.isTrue then second else .text []

/-- The entry that a value is. -/
def ofValue (v : Value) : Except Fault UnitEntry := do
  match v with
  | .table _ => pure ()
  | v => throw (v.lacks "get")
  let name ←
    match v.get? "name" with
    | some name => pure name
    | none => throw (.noKey "name")
  let sources ← ((v.get? "sources").getD .null).entriesIfAny
  let paths ← ((v.get? "sourcePaths").getD .null).entriesIfAny
  let tabValues := (v.get? "tabs").getD .null
  let tabs ← if tabValues.isTrue then (← tabValues.members).mapM Tab.ofValue else pure []
  if located : ∀ e ∈ sources, (Value.valueOf? e.1 paths).isSome = true then
    return {
      kind := (v.get? "type").getD (.text "widget")
      name
      category := firstTrue v "entity" "entityType"
      root := (v.get? "path").getD (.text [])
      declaredId := (v.get? "id").getD .null
      displayName := (v.get? "displayName").getD .null
      route := (v.get? "route").getD .null
      sources, paths, tabs, located }
  else throw (unlocatedFault name (unlocated sources paths))

/-- What the hooks of an entry begin with: the declared identifier, or else the name in lower
case. -/
def sectionId (e : UnitEntry) : Except Fault Value :=
  if e.declaredId.isTrue then .ok e.declaredId
  else
    match e.name with
    | .text name => .ok (.text (Text.lower name))
    | v => .error (v.lacks "lower")

/-! ## 4.  Units of entries -/

/-- A value that counts only if it holds as a condition, as it is shown. -/
def shown? (v : Value) : Option Text := if v.isTrue then some v.display else none

/-- The fault of a use, if there is one. -/
def misfit (use : UnitUse) : Option Fault → List (UnitUse × Fault)
  | none => []
  | some f => [(use, f)]

/-- The first fault of a list of values. -/
def faultIn (f : Value → Option Fault) (vs : List Value) : Option Fault := vs.findSome? f

/-- The fault of asking a value that is no text for a property of texts. -/
def notText (property : Text) : Value → Option Fault
  | .text _ => none
  | v => some (v.lacks property)

/-- The fault of a value that is no text in a path. -/
def notPart : Value → Option Fault
  | .text _ => none
  | v =>
    some (.wrongKind
      ("unsupported operand type(s) for /: 'PosixPath' and '" ++ v.kindName ++ ['\'']))

/-- The fault of a value that is no text and whose first character is asked for. -/
def notSliced : Value → Option Fault
  | .text _ => none
  | .list _ => some (.wrongKind "expected string or bytes-like object, got 'list'")
  | .table _ => some (.wrongKind "unhashable type: 'slice'")
  | v => some (.wrongKind ("'" ++ v.kindName ++ "' object is not subscriptable"))

/-- The fault of a value that cannot be looked for among the keys of a table. -/
def notKey : Value → Option Fault
  | .list _ => some (.wrongKind "unhashable type: 'list'")
  | .table _ => some (.wrongKind "unhashable type: 'dict'")
  | _ => none

/-- The fault of the section identifier. -/
def sectionFault (e : UnitEntry) : Option Fault :=
  match e.sectionId with
  | .ok _ => none
  | .error f => some f

/-- The codes that are looked at for imports. -/
def ownCodes (e : UnitEntry) : List Value :=
  e.sources.filterMap fun (key, code) =>
    match key with
    | .text key =>
      if Text.startsWith key "ui/" || Text.endsWith key ".gql" then none else some code
    | _ => none

/-- What the facts of an entry are not fit for. -/
def misfits (e : UnitEntry) : List (UnitUse × Fault) :=
  let keys := e.sources.map Prod.fst
  let analysis :=
    if e.isPage then none else e.sectionFault <|> faultIn (notText "endswith") keys
  let words :=
    match Value.joined ['
'] (e.sources.map Prod.snd) with
    | .ok _ => none
    | .error f => some f
  let hooks :=
    e.sectionFault <|> faultIn (notText "startswith") keys <|>
      faultIn (notText "encode") e.ownCodes <|> if e.isPage then notKey e.name else none
  let hookIds : Option Fault :=
    match e.sectionId with
    | .ok (.text _) | .error _ => none
    | .ok v => some (.wrongKind ("replace() argument 2 must be str, not " ++ v.kindName))
  let test :=
    if e.isPage then
      (if e.category.isTrue then none else notText "lower" e.name) <|> notSliced e.name
    else none
  let writing := (if e.isPage then none else notPart e.name) <|> notPart e.category
  misfit .analysis analysis ++ misfit .words words ++ misfit .hooks hooks ++
    misfit .hookIds hookIds ++ misfit .test test ++ misfit .writing writing

/-- The unit of an entry: its facts are taken as they are shown. -/
def toUnit (e : UnitEntry) : UiUnit :=
  let paths : Table Text :=
    .ofList (e.paths.map fun (key, path) => (key.display, (shown? path).getD []))
  let sources : Table Text :=
    (Table.ofList (e.sources.map fun (key, code) => (key.display, code.display))).filter
      paths.contains
  { kind := .ofText e.kind.display
    name := e.name.display
    category := e.category.display
    root := e.root.display
    declaredId := shown? e.declaredId
    displayName := shown? e.displayName
    sources, paths
    route := shown? e.route
    tabs := e.tabs
    misfits := e.misfits
    located := fun key hk => by
      rw [Table.keys_filter] at hk
      exact (List.mem_filter.1 hk).2 }

end UnitEntry

end UiHarness
