import UiHarness.Hook.Policy
import UiHarness.Syntax.Draft
import UiHarness.Syntax.Element
import UiHarness.Text.Blank

/-!
# Hooks on elements

A hook is the attribute by which a test finds an element.  This module says which elements have
one, puts new ones into a draft, and plans which elements of a file are to get which identifiers.

An element is planned if its component has a policy that gives hooks, if it has no hook, and if it
meets the conditions of the policy.  The first planned element of a component gets the identifier
of the pattern, the second one the same with `-2`, and so on.
-/

namespace UiHarness.Hook

open Syntax

/-! ## 1.  Hooks -/

/-- The name of the attribute. -/
def attributeName : Text := "data-testid"

/-- The text by which a hook is put into a tag, behind the name of the element. -/
def attributeText (id : Text) : Text := ' ' :: attributeName ++ "=\"" ++ id ++ ['"']

/-- The identifier in the hook of an element, if it is a string. -/
def idOf? (e : Element) : Option Text := e.stringAttribute? attributeName

/-- Whether a text to be inserted is a hook. -/
def isHook (t : Text) : Bool := Text.startsWith (Text.stripStart t) (attributeName ++ ['='])

/-- Whether an element has a hook, in the file or among the insertions. -/
def hasHook (d : Draft) (e : Element) : Bool :=
  e.hasAttribute attributeName ||
    match e.room? with
    | some offset => (d.textsAt offset).any isHook
    | none => false

/-- A draft with a hook on an element, unless it has one or has no place for it. -/
def add? (d : Draft) (e : Element) (id : Text) : Option Draft :=
  if hasHook d e then none else e.room?.map fun offset => d.insert offset (attributeText id)

/-! ## 2.  Plans -/

/-- A hook that is to be given to an element. -/
structure Suggestion where
  /-- The component. -/
  component : Text
  /-- The identifier. -/
  id : Text
  /-- The element. -/
  element : Element
  deriving DecidableEq, Repr

/-- The line of the element, counted from one. -/
def Suggestion.line (s : Suggestion) : Nat := s.element.start.line + 1

/-- The column of the element, in bytes. -/
def Suggestion.column (s : Suggestion) : Nat := s.element.start.column

/-- The attribute of links that lead out of the application. -/
def externalAttribute : Text := "external"

/-- The attributes that make an element special. -/
def specialAttributes : List String := ["className", "role"]

/-- Whether an element meets the conditions of a policy. -/
def meets (p : Policy) (e : Element) : Bool :=
  (!p.onlyExternal || e.hasAttribute externalAttribute) &&
    (!p.skipUnlessSpecial || specialAttributes.any fun a => e.hasAttribute a)

/-- The component and the pattern for an element that is to get a hook. -/
def target? (d : Draft) (policies : Table Policy) (e : Element) : Option (Text × Text) := do
  let component ← e.component?
  let policy ← policies.get? component
  let pattern ← policy.pattern
  if policy.injects && !hasHook d e && meets policy e then some (component, pattern) else none

/-- The identifier that a pattern gives for a section. -/
def identifier (sectionId pattern : Text) : Text := Text.replaceAll pattern sectionMark sectionId

/-- An identifier for one of several elements, counted from one. -/
def numbered (id : Text) (k : Nat) : Text := if 1 < k then id ++ '-' :: Text.ofNat k else id

/-- The hooks for elements, when the components given have been planned before. -/
def planFrom (d : Draft) (sectionId : Text) (policies : Table Policy) (before : List Text) :
    List Element → List Suggestion
  | [] => []
  | e :: es =>
    match target? d policies e with
    | none => planFrom d sectionId policies before es
    | some (component, pattern) =>
      { component
        id := numbered (identifier sectionId pattern) (before.count component + 1)
        element := e } :: planFrom d sectionId policies (component :: before) es

/-- The hooks that are to be given to the elements of a draft. -/
def plan (d : Draft) (sectionId : Text) (policies : Table Policy) : List Suggestion :=
  planFrom d sectionId policies [] (Element.list d.nodes)

/-- Gives elements their hooks, and counts those that got one. -/
def addAll (d : Draft) : List Suggestion → Draft × Nat
  | [] => (d, 0)
  | s :: ss =>
    match add? d s.element s.id with
    | some d' =>
      let (d'', n) := addAll d' ss
      (d'', n + 1)
    | none => addAll d ss

end UiHarness.Hook
