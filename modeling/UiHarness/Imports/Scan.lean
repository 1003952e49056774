import UiHarness.Text.Blank

/-!
# Scanning for imports

A quick scan of a source text for import statements of the common forms, without reading the text
as source.  It is used to find the files that a unit consists of; the exact bindings come from the
statements themselves.

* `Scan.nearby`: the modules nearby that may be components.
* `Scan.packageNames`: the names imported from the shared UI package.
-/

namespace UiHarness.Scan

open Text

/-! ## 1.  Forms -/

/-- What is left behind at least one blank. -/
def blanks? (t : Text) : Option Text :=
  match t.span isBlank with
  | ([], _) => none
  | (_, r) => some r

/-- Whether a character is a quote. -/
def isQuote (c : Char) : Bool := c = '\'' || c = '"'

/-- What is left behind a quote. -/
def quote? : Text → Option Text
  | c :: t => if isQuote c then some t else none
  | [] => none

/-- The text in braces, with what is left. -/
def braced? : Text → Option (Text × Text)
  | '\x7b' :: t =>
    match t.span (· ≠ '\x7d') with
    | (inside, _ :: r) => some (inside, r)
    | (_, []) => none
  | _ => none

/-- What is imported: names in braces, or a run of other characters. -/
def subject? (t : Text) : Option Text :=
  match t with
  | '\x7b' :: _ => (braced? t).map Prod.snd
  | _ =>
    match t.span fun c => c ≠ '\x7b' && c ≠ '\x7d' && !isBlank c with
    | ([], _) => none
    | (_, r) => some r

/-- What is left behind the word `from` with blanks around it and a quote. -/
def from? (t : Text) : Option Text := do
  let r ← blanks? t
  let r ← after? "from" r
  let r ← blanks? r
  quote? r

/-- An import from a module that is named by a relative path. -/
def nearby? (t : Text) : Option (Text × Text) := do
  let r ← after? "import" t
  let r ← blanks? r
  let r ← subject? r
  let r ← from? r
  match r with
  | '.' :: r =>
    match r.span (!isQuote ·) with
    | (c :: path, _ :: r) => some ('.' :: c :: path, r)
    | _ => none
  | _ => none

/-- An import of names from the shared UI package: the text in its braces. -/
def package? (t : Text) : Option (Text × Text) := do
  let r ← after? "import" t
  let r ← blanks? r
  let (inside, r) ← braced? r
  if inside.isEmpty then none
  let r ← from? r
  let r ← after? "ui" r
  let r ← quote? r
  some (inside, r)

/-! ## 2.  Results -/

/-- The ends of paths that are no source files. -/
def otherSuffixes : List String := [".gql", ".graphql", ".css", ".scss", ".json", ".svg", ".png"]

/-- Words in paths of modules that hold no components. -/
def otherWords : List String := ["context", "utils"]

/-- Whether a module may hold a component. -/
def isCandidate (path : Text) : Bool :=
  !(otherSuffixes.any fun s => Text.endsWith path s) &&
    !(otherWords.any fun w => Text.contains path w)

/-- The modules nearby that may be components, in order. -/
def nearby (code : Text) : List Text := (findAll nearby? code).filter isCandidate

/-- The exported name of a binding in braces; a binding of a type has none. -/
def exported? (binding : Text) : Option Text :=
  let b := strip binding
  if b.isEmpty || Text.startsWith b "type " then none
  else
    match cut? " as " b with
    | some (name, _) => some (strip name)
    | none => some b

/-- The members of a list without those that have been seen before. -/
def distinctFrom (seen : List Text) : List Text → List Text
  | [] => []
  | t :: ts => if t ∈ seen then distinctFrom seen ts else t :: distinctFrom (t :: seen) ts

/-- The members of a list, each one where it comes first. -/
def distinct (ts : List Text) : List Text := distinctFrom [] ts

/-- The names imported from the shared UI package, in order. -/
def packageNames (code : Text) : List Text :=
  distinct ((findAll package? code).flatMap fun inside =>
    (splitAt ',' inside).filterMap exported?)

end UiHarness.Scan
