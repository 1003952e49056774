import UiHarness.Proofs.Hook.Insertion
import UiHarness.Proofs.Table
import UiHarness.Proofs.Text.Lowercase

/-!
# Identifiers that may stand in quotes

The identifier of a hook is put between quotes as it is.  A quote in it would end the string, and
an ampersand might begin the name of a character.  An identifier is made of the identifier of the
section and a pattern, and a pattern is given by the user, by a table, or made from the name of the
component; on the way from the name to the pattern nothing comes up that matters here.

* `Hook.Quotable`: texts that may stand in quotes.
* `Hook.quotable_defaultPattern`, `Hook.quotable_of_table`: patterns that are made from names.
* `Hook.quotable_of_mem_plan`: with such patterns, the identifiers of a plan may stand in quotes if
  the one of the section may.
-/

namespace UiHarness

namespace Text

/-! ## 1.  Replacing -/

theorem not_mem_replaceFrom {x : Char} {p new : Text} (hnew : x ∉ new) {t : Text} (h : x ∉ t)
    (skip : Nat) : x ∉ replaceFrom p new skip t := by
  induction t generalizing skip with
  | nil =>
    rw [replaceFrom]
    exact List.not_mem_nil
  | cons c t ih =>
    rw [List.mem_cons, not_or] at h
    cases skip with
    | succ skip => exact ih h.2 skip
    | zero =>
      rw [replaceFrom]
      split
      · rw [List.mem_append, not_or]
        exact ⟨hnew, ih h.2 _⟩
      · rw [List.mem_cons, not_or]
        exact ⟨h.1, ih h.2 _⟩

/-- Replacing brings in what is put in place only. -/
theorem not_mem_replaceAll {x : Char} {t new : Text} (h : x ∉ t) (p : Text) (hnew : x ∉ new) :
    x ∉ replaceAll t p new := by
  rw [replaceAll]
  split
  · exact h
  · exact not_mem_replaceFrom hnew h 0

/-- A recogniser that brings no character of a kind into a text does not do so anywhere. -/
theorem not_mem_substituteAll {x : Char} {p : Text → Option (Text × Text)}
    (hp : ∀ t new rest, p t = some (new, rest) → x ∉ t → x ∉ new ∧ x ∉ rest) {t : Text}
    (h : x ∉ t) : x ∉ substituteAll p t := by
  have hwithin : ∀ n t, x ∉ t → x ∉ substituteWithin p n t := by
    intro n
    induction n with
    | zero => exact fun t h => h
    | succ n ih =>
      intro t h
      cases t with
      | nil => exact h
      | cons c t =>
        rw [substituteWithin]
        split
        · rename_i new rest hm
          obtain ⟨hnew, hrest⟩ := hp _ _ _ hm h
          rw [List.mem_append, not_or]
          exact ⟨hnew, ih rest hrest⟩
        · rw [List.mem_cons, not_or] at h ⊢
          exact ⟨h.1, ih t h.2⟩
  exact hwithin t.length t h

/-- The digits of a number are digits. -/
theorem not_mem_ofNat {x : Char} (hx : x.isDigit = false) (n : Nat) : x ∉ ofNat n := by
  intro hm
  have hd := Nat.isDigit_of_mem_toDigits (by decide) (by decide) hm
  rw [hx] at hd
  cases hd

end Text

namespace Hook

open Syntax

/-! ## 2.  Texts in quotes -/

/-- A text that may stand in quotes as it is. -/
def Quotable (t : Text) : Prop := '"' ∉ t ∧ '&' ∉ t

instance (t : Text) : Decidable (Quotable t) := inferInstanceAs (Decidable (_ ∧ _))

theorem not_mem_of_acronym? {x : Char} (hx : x ≠ '-') {t new rest : Text}
    (h : acronym? t = some (new, rest)) (ht : x ∉ t) : x ∉ new ∧ x ∉ rest := by
  unfold acronym? at h
  split at h
  · rename_i capitals c behind hspan
    rw [← Text.append_of_span hspan, List.mem_append, List.mem_cons, not_or, not_or] at ht
    split at h
    · rename_i a before last hfront hlast
      split at h
      · obtain ⟨rfl, rfl⟩ := Prod.mk.inj (Option.some.inj h)
        have hfront' : x ∉ a :: before := fun hm => ht.1 (List.dropLast_subset _ (hfront ▸ hm))
        have hlast' : x ≠ last := fun hm => ht.1 (hm ▸ List.mem_of_getLast? hlast)
        refine ⟨?_, ht.2.2⟩
        simp only [List.mem_append, List.mem_cons, List.not_mem_nil, or_false, not_or] at hfront' ⊢
        exact ⟨hfront', hx, hlast', ht.2.1⟩
      · cases h
    · cases h
  · cases h

theorem not_mem_of_wordEnd? {x : Char} (hx : x ≠ '-') {t new rest : Text}
    (h : wordEnd? t = some (new, rest)) (ht : x ∉ t) : x ∉ new ∧ x ∉ rest := by
  unfold wordEnd? at h
  split at h
  · split at h
    · obtain ⟨rfl, rfl⟩ := Prod.mk.inj (Option.some.inj h)
      simp only [List.mem_cons, List.not_mem_nil, or_false, not_or] at ht ⊢
      exact ⟨⟨ht.1, hx, ht.2.1⟩, ht.2.2⟩
    · cases h
  · cases h

/-- Hyphens and lower case bring in no sign but the hyphen. -/
theorem not_mem_kebab {x : Char} (hpos : x.toNat ≠ 0) (hsign : x.toNat < 65) (hx : x ≠ '-')
    {name : Text} (h : x ∉ name) : x ∉ kebab name := by
  have hacronyms : x ∉ Text.substituteAll acronym? name :=
    Text.not_mem_substituteAll (fun _ _ _ => not_mem_of_acronym? hx) h
  have hwords : x ∉ Text.substituteAll wordEnd? (Text.substituteAll acronym? name) :=
    Text.not_mem_substituteAll (fun _ _ _ => not_mem_of_wordEnd? hx) hacronyms
  refine Text.not_mem_lower hpos hsign fun hm => ?_
  obtain ⟨c, hc, hcx⟩ := List.mem_map.1 hm
  unfold hyphenate at hcx
  split at hcx
  · exact hx hcx.symm
  · exact hwords (hcx ▸ hc)

/-! ## 3.  Patterns -/

theorem Quotable.append {s t : Text} (hs : Quotable s) (ht : Quotable t) : Quotable (s ++ t) :=
  ⟨fun hm => (List.mem_append.1 hm).elim hs.1 ht.1,
    fun hm => (List.mem_append.1 hm).elim hs.2 ht.2⟩

/-- **The pattern that is made from a name** may stand in quotes if the name may. -/
theorem quotable_defaultPattern {name : Text} (h : Quotable name) :
    Quotable (defaultPattern name) := by
  have hkebab : Quotable (kebab name) :=
    ⟨not_mem_kebab (by decide) (by decide) (by decide) h.1,
      not_mem_kebab (by decide) (by decide) (by decide) h.2⟩
  have hmark : Quotable (sectionMark ++ ['-']) := by decide
  rw [defaultPattern, ← List.singleton_append, ← List.append_assoc]
  exact hmark.append hkebab

/-- The pattern for a binding is made from its local name, or that of an override. -/
theorem pattern_ofBinding {overrides : Overrides} {b : Binding} {pattern : Text}
    (h : (Policy.ofBinding overrides b).pattern = some pattern) :
    pattern = defaultPattern b.localName ∨
      ∃ e ∈ overrides, e.2.pattern = some (some pattern) := by
  unfold Policy.ofBinding at h
  dsimp only at h
  split at h
  · rename_i o ho
    have hmem := Table.mem_of_lookup ho
    cases hpattern : o.pattern with
    | none =>
      rw [Override.apply, hpattern, Option.getD_none] at h
      exact .inl (Option.some.inj h).symm
    | some other =>
      rw [Override.apply, hpattern, Option.getD_some] at h
      exact .inr ⟨_, hmem, hpattern.trans (congrArg some h)⟩
  · exact .inl (Option.some.inj h).symm

/-- The patterns of the library may stand in quotes. -/
theorem quotable_of_libraryOverrides :
    ∀ e ∈ libraryOverrides, ∀ pattern ∈ e.2.pattern.join, Quotable pattern := by
  decide +kernel

/-- **The patterns of the policies for a file** may stand in quotes as the names of the components
may. -/
theorem quotable_of_table {b : Bucket} {name pattern : Text} {p : Policy}
    (hp : (Policy.table libraryOverrides b).get? name = some p) (hpattern : p.pattern = some pattern)
    (hname : Quotable name) : Quotable pattern := by
  obtain ⟨binding, -, heq⟩ := List.mem_map.1 (Table.mem_of_get?_ofList hp)
  obtain ⟨rfl, rfl⟩ := Prod.mk.inj heq
  rcases pattern_ofBinding hpattern with rfl | ⟨e, he, hpat⟩
  · exact quotable_defaultPattern hname
  · exact quotable_of_libraryOverrides e he pattern (by rw [hpat]; rfl)

/-! ## 4.  Plans -/

/-- What is said by a suggestion. -/
theorem of_mem_planFrom {d : Draft} {sectionId : Text} {policies : Table Policy}
    {before : List Text} {es : List Element} {s : Suggestion}
    (hs : s ∈ planFrom d sectionId policies before es) :
    s.element ∈ es ∧ ∃ pattern k, target? d policies s.element = some (s.component, pattern) ∧
      s.id = numbered (identifier sectionId pattern) k := by
  induction es generalizing before with
  | nil => exact absurd hs List.not_mem_nil
  | cons e es ih =>
    rw [planFrom] at hs
    split at hs
    · obtain ⟨hm, hrest⟩ := ih hs
      exact ⟨List.mem_cons_of_mem _ hm, hrest⟩
    · rename_i component pattern ht
      rcases List.mem_cons.1 hs with rfl | hs
      · exact ⟨List.mem_cons_self .., pattern, _, ht, rfl⟩
      · obtain ⟨hm, hrest⟩ := ih hs
        exact ⟨List.mem_cons_of_mem _ hm, hrest⟩

theorem quotable_numbered {id : Text} (h : Quotable id) (k : Nat) : Quotable (numbered id k) := by
  rw [numbered]
  split
  · have hdigits : Quotable (Text.ofNat k) :=
      ⟨Text.not_mem_ofNat (by decide) k, Text.not_mem_ofNat (by decide) k⟩
    have hhyphen : Quotable ['-'] := by decide
    exact h.append (hhyphen.append hdigits)
  · exact h

/-- **The identifiers of a plan may stand in quotes** if the identifier of the section and the
patterns may. -/
theorem quotable_of_mem_plan {nodes : List Node} {sectionId : Text} {policies : Table Policy}
    (hid : Quotable sectionId)
    (hpatterns : ∀ e ∈ Element.list nodes, ∀ component pattern,
      target? { nodes } policies e = some (component, pattern) → Quotable pattern) :
    ∀ s ∈ plan { nodes } sectionId policies, Quotable s.id := by
  intro s hs
  obtain ⟨he, pattern, k, ht, hs⟩ := of_mem_planFrom hs
  have hpattern := hpatterns _ he _ _ ht
  rw [hs]
  exact quotable_numbered ⟨Text.not_mem_replaceAll hpattern.1 _ hid.1,
    Text.not_mem_replaceAll hpattern.2 _ hid.2⟩ k

end Hook

end UiHarness
