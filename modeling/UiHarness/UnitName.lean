import UiHarness.Text.Lowercase

/-!
# Names of units

The names of generated files and of entities come from the names of units.
-/

namespace UiHarness.UnitName

/-- A name whose first character is in lower case. -/
def lowerFirst (name : Text) : Text := Text.lower (name.take 1) ++ name.drop 1

/-- A text without an end, which a last line feed may follow. -/
def withoutEnd (t ending : Text) : Text :=
  if Text.endsWith t ending then t.take (t.length - ending.length)
  else if Text.endsWith t (ending ++ ['\n']) then
    t.take (t.length - ending.length - 1) ++ ['\n']
  else t

/-- The type of entity that a page shows. -/
def entityType (page : Text) : Text := withoutEnd (Text.lower page) "page"

/-- The name of the interactor of a page: the name of the page without its end, in camel case. -/
def interactorStem (page : Text) : Text :=
  lowerFirst (page.take 1 ++ withoutEnd (page.drop 1) "Page")

end UiHarness.UnitName
