import UiHarness.Text

/-!
# Paths

A path is a root, which may be missing, and the names of its parts.  Empty parts and single dots
mean nothing and are dropped when a path is read; two dots are kept.  A path that begins with
exactly two slashes has a root of its own.
-/

namespace UiHarness

/-- A path in a file system. -/
structure Path where
  /-- The slashes at its front; empty for a relative path. -/
  root : Text := []
  /-- The names of its parts. -/
  parts : List Text := []
  deriving DecidableEq, Repr

namespace Path

/-- The slashes at the front of a path that mean its root. -/
def rootOf (t : Text) : Text :=
  match t with
  | '/' :: '/' :: '/' :: _ => "/"
  | '/' :: '/' :: _ => "//"
  | '/' :: _ => "/"
  | _ => []

/-- Whether a part names something. -/
def isName (part : Text) : Bool := !part.isEmpty && part ≠ ['.']

/-- Reads a path. -/
def ofText (t : Text) : Path := ⟨rootOf t, (Text.splitAt '/' t).filter isName⟩

/-- A path as text. -/
def text (p : Path) : Text :=
  if p.root.isEmpty && p.parts.isEmpty then ['.'] else p.root ++ Text.join ['/'] p.parts

/-- Whether a path starts at the root. -/
def isAbsolute (p : Path) : Bool := !p.root.isEmpty

/-- A path inside another one; an absolute path is not changed. -/
def join (p q : Path) : Path := if q.isAbsolute then q else ⟨p.root, p.parts ++ q.parts⟩

/-- A path with a text read as further parts. -/
def child (p : Path) (t : Text) : Path := p.join (ofText t)

/-- The path without its last part. -/
def parent (p : Path) : Path := ⟨p.root, p.parts.dropLast⟩

/-- The last part; empty if there is none. -/
def name (p : Path) : Text := p.parts.getLastD []

/-- The place of the last dot of a name that has something before and behind it. -/
def dotPlace? (name : Text) : Option Nat :=
  let behind := name.reverse.takeWhile (· ≠ '.')
  if behind.isEmpty || name.length ≤ behind.length + 1 then none
  else some (name.length - behind.length - 1)

/-- The last part from its last dot on. -/
def suffix (p : Path) : Text :=
  match dotPlace? p.name with
  | some i => p.name.drop i
  | none => []

/-- The last part up to its last dot. -/
def stem (p : Path) : Text :=
  match dotPlace? p.name with
  | some i => p.name.take i
  | none => p.name

/-- The parts with the root as the first one. -/
def steps (p : Path) : List Text := if p.root.isEmpty then p.parts else p.root :: p.parts

/-- The rest of a list behind a beginning. -/
def stepsBehind? : List Text → List Text → Option (List Text)
  | [], t => some t
  | _ :: _, [] => none
  | a :: p, b :: t => if a = b then stepsBehind? p t else none

/-- The parts of a path behind another one that it begins with. -/
def relativeTo? (p base : Path) : Option (List Text) :=
  if base.steps.isEmpty && p.isAbsolute then none else stepsBehind? base.steps p.steps

/-- The parts of a path with each pair of dots taken back, without a look at the files. -/
def normalized (before : List Text) : List Text → List Text
  | [] => before
  | part :: parts =>
    if part = ("..".toList : Text) then normalized before.dropLast parts
    else normalized (before ++ [part]) parts

/-- The absolute path that a path means in a directory, without pairs of dots. -/
def resolved (directory : List Text) (p : Path) : Path :=
  ⟨"/", normalized [] ((if p.isAbsolute then [] else directory) ++ p.parts)⟩

end Path

end UiHarness
