import UiHarness.Fence

/-!
# What is taken out of a reply

Whatever is read in a reply, the text of a fenced block or the whole reply without its blanks at the
ends, stands in the reply as it is.

* `Text.append_of_cut?`, `Text.exists_of_findFirst?`: where something that was found stands.
* `Fence.infix_of_first?`: the text of a block stands in the reply.
* `Fence.infix_of_jsonText?`: so does the part that can be JSON.
-/

namespace UiHarness

namespace Text

/-- A text that is cut consists of the two parts and of what it is cut at. -/
theorem append_of_cut? {p t a b : Text} (h : cut? p t = some (a, b)) : a ++ (p ++ b) = t := by
  induction t generalizing a with
  | nil =>
    rw [cut?] at h
    split at h
    · rename_i hp
      obtain ⟨rfl, rfl⟩ := Prod.mk.inj (Option.some.inj h)
      rw [List.isEmpty_iff.1 hp]
      rfl
    · cases h
  | cons c t ih =>
    rw [cut?] at h
    split at h
    · rename_i r hr
      obtain ⟨rfl, rfl⟩ := Prod.mk.inj (Option.some.inj h)
      rw [List.nil_append]
      exact append_of_after? hr
    · obtain ⟨⟨a', b'⟩, hcut, heq⟩ := Option.map_eq_some_iff.1 h
      obtain ⟨rfl, rfl⟩ := Prod.mk.inj heq
      rw [List.cons_append, ih hcut]

/-- What is found first is found in front of some end of the text. -/
theorem exists_of_findFirst? {α : Type} {p : Text → Option (α × Text)} {t : Text} {found : α × Text}
    (h : findFirst? p t = some found) : ∃ r, r <:+ t ∧ p r = some found := by
  induction t with
  | nil => exact ⟨[], List.suffix_refl _, h⟩
  | cons c t ih =>
    rw [findFirst?] at h
    split at h
    · rename_i found' hfound
      exact ⟨c :: t, List.suffix_refl _, hfound.trans h⟩
    · obtain ⟨r, hr, hfound⟩ := ih h
      exact ⟨r, hr.trans (List.suffix_cons c t), hfound⟩

/-- What is left without the blanks at the ends stands in the text. -/
theorem infix_strip (t : Text) : strip t <:+: t := by
  have hend : dropEndWhile isBlank (t.dropWhile isBlank) <+: t.dropWhile isBlank := by
    rw [dropEndWhile, ← List.reverse_suffix, List.reverse_reverse]
    exact List.dropWhile_suffix _
  exact hend.isInfix.trans (List.dropWhile_suffix _).isInfix

end Text

namespace Fence

open Text

variable {tag? : Text → Option Text} {t s : Text}

theorem suffix_of_after? {p r : Text} (h : after? p t = some r) : r <:+ t :=
  ⟨p, append_of_after? h⟩

theorem suffix_of_lineEnd? {r : Text} (h : lineEnd? t = some r) : r <:+ t := by
  unfold lineEnd? at h
  split at h
  · rename_i r' hr'
    obtain rfl := Option.some.inj h
    exact (List.suffix_cons _ _).trans (hr' ▸ List.dropWhile_suffix _)
  · cases h

/-- The text of a block stands in the text that the block is read in. -/
theorem infix_of_block? (htag : ∀ t r, tag? t = some r → r <:+ t) {rest : Text}
    (h : block? tag? t = some (s, rest)) : s <:+: t := by
  obtain ⟨r₁, h₁, h⟩ := Option.bind_eq_some_iff.1 h
  obtain ⟨r₂, h₂, h⟩ := Option.bind_eq_some_iff.1 h
  obtain ⟨r₃, h₃, h⟩ := Option.bind_eq_some_iff.1 h
  have hr₃ : r₃ <:+ t :=
    ((suffix_of_lineEnd? h₃).trans (htag r₁ r₂ h₂)).trans (suffix_of_after? h₁)
  exact List.IsInfix.trans ⟨[], mark ++ rest, append_of_cut? h⟩ hr₃.isInfix

/-- **The text of the first block** stands in the reply. -/
theorem infix_of_first? (htag : ∀ t r, tag? t = some r → r <:+ t)
    (h : first? tag? t = some s) : s <:+: t := by
  obtain ⟨⟨body, rest⟩, hfound, rfl⟩ := Option.map_eq_some_iff.1 h
  obtain ⟨r, hr, hblock⟩ := exists_of_findFirst? hfound
  exact ((infix_strip body).trans (infix_of_block? htag hblock)).trans hr.isInfix

/-- **The part of a reply that can be JSON** stands in the reply. -/
theorem infix_of_jsonText? (h : jsonText? t = some s) : s <:+: t := by
  unfold jsonText? at h
  split at h
  · rename_i body hfirst
    obtain rfl := Option.some.inj h
    exact infix_of_first? (fun _ _ => suffix_of_after?) hfirst
  · dsimp only at h
    split at h
    · obtain rfl := Option.some.inj h
      exact infix_strip t
    · cases h

end Fence

end UiHarness
