import UiHarness.Text

/-!
# Import bindings

An import statement binds local names to things that another module exports.  A binding records
the local name, the specifier of the module, and what is bound: an export of another name, an
export of the same name, the default export, or the module as a whole.  That an export keeps its
name is recorded by the absence of an export name, so every binding has one written form.
-/

namespace UiHarness

/-- One name bound by an import statement. -/
structure Binding where
  /-- The name used in the importing file. -/
  localName : Text
  /-- The specifier of the module, without its quotes. -/
  source : Text
  /-- The exported name, if it is another than the local one. -/
  exportName : Option Text := none
  /-- Whether the default export is bound. -/
  isDefault : Bool := false
  /-- Whether the whole module is bound. -/
  isNamespace : Bool := false
  deriving DecidableEq, Repr

namespace Binding

/-- A binding whose exported name is given; it is dropped if it equals the local name. -/
def named (localName source : Text) (exportName : Option Text) : Binding :=
  { localName, source, exportName := if exportName = some localName then none else exportName }

/-- The name under which the module exports what is bound, as far as the statement says. -/
def exported (b : Binding) : Text :=
  match b.exportName with
  | some name => if name.isEmpty then b.localName else name
  | none => b.localName

end Binding

end UiHarness
