import UiHarness.Hook.Plan
import UiHarness.Fault

/-!
# Hooks in a source file

A source file is changed by giving the planned elements their hooks; nothing else in it changes.
A trial run only plans.
-/

namespace UiHarness.Hook

/-- What became of a source file. -/
structure Transform where
  /-- The text of the file afterwards. -/
  code : Text
  /-- The hooks that were planned. -/
  suggestions : List Suggestion
  /-- How many elements got their hooks. -/
  applied : Nat
  /-- Whether the text was changed. -/
  isModified : Bool

/-- Gives the elements of a source file their hooks. -/
def transform (policies : Table Policy) (sectionId path : Text) (trial : Bool) (code : Text) :
    Except Fault Transform :=
  match Syntax.read path code with
  | .error e => .error (.source e)
  | .ok nodes =>
    let draft : Syntax.Draft := { nodes }
    let suggestions := plan draft sectionId policies
    let unchanged : Transform := { code, suggestions, applied := 0, isModified := false }
    if trial || suggestions.isEmpty then .ok unchanged
    else
      match addAll draft suggestions with
      | (_, 0) => .ok unchanged
      | (changed, applied) =>
        match changed.text with
        | .ok code => .ok { code, suggestions, applied, isModified := true }
        | .error u => .error (.undecodable u)

/-- Gives the elements of a source file the hooks that its own imports call for. -/
def transformAlone (sectionId path : Text) (trial : Bool) (code : Text) : Except Fault Transform :=
  transform (Policy.ofFile path code) sectionId path trial code

end UiHarness.Hook
