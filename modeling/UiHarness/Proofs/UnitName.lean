import UiHarness.Proofs.Text.Lowercase
import UiHarness.UnitName

/-!
# Names of generated files

The names of generated files come from the names of units, which have no slashes in them, and none
come up on the way: changing the case of a text and taking away its end bring in no slash.

* `UnitName.not_mem_lowerFirst`, `UnitName.not_mem_entityType`, `UnitName.not_mem_interactorStem`.
-/

namespace UiHarness

namespace UnitName

theorem not_mem_lowerFirst {name : Text} (h : '/' ∉ name) : '/' ∉ lowerFirst name := by
  rw [lowerFirst, List.mem_append, not_or]
  exact ⟨Text.not_mem_lower (by decide) (by decide) fun hm => h (List.mem_of_mem_take hm),
    fun hm => h (List.mem_of_mem_drop hm)⟩

theorem not_mem_withoutEnd {t : Text} (h : '/' ∉ t) (ending : Text) :
    '/' ∉ withoutEnd t ending := by
  rw [withoutEnd]
  split
  · exact fun hm => h (List.mem_of_mem_take hm)
  · split
    · rw [List.mem_append, not_or]
      exact ⟨fun hm => h (List.mem_of_mem_take hm), by decide⟩
    · exact h

theorem not_mem_entityType {name : Text} (h : '/' ∉ name) : '/' ∉ entityType name :=
  not_mem_withoutEnd (Text.not_mem_lower (by decide) (by decide) h) _

theorem not_mem_interactorStem {name : Text} (h : '/' ∉ name) : '/' ∉ interactorStem name := by
  refine not_mem_lowerFirst ?_
  rw [List.mem_append, not_or]
  exact ⟨fun hm => h (List.mem_of_mem_take hm),
    not_mem_withoutEnd (fun hm => h (List.mem_of_mem_drop hm)) _⟩

end UnitName

end UiHarness
