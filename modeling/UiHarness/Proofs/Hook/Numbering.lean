import Mathlib.Data.List.Nodup
import UiHarness.Proofs.Hook.Identifier

/-!
# How the identifiers of a plan are numbered

The elements that are planned are counted for each component on its own, in the order of the file.
The first one of a component gets the first identifier of the component, which comes from its policy
alone, and the others get it with their numbers.

* `Hook.occurrencesFrom`: the entries of a list, each with the number of its occurrence.
* `Hook.map_plan`: the identifiers of a plan are those of the occurrences of its components.
* `Hook.numbered_eq_iff`: when two numbered identifiers are equal.
* `Hook.idsOf_plan`: the identifiers that a plan gives for one component.
* `Hook.exists_ending`: what the first identifier of a component is, in a file on its own.
-/

namespace UiHarness

namespace Text

/-- Numbers are known by their digits. -/
theorem ofNat_injective {j k : Nat} (h : ofNat j = ofNat k) : j = k := by
  have hdigits := congrArg (fun ds => Nat.ofDigitChars 10 ds 0) h
  simpa only [ofNat, Nat.ofDigitChars_ten_toDigits] using hdigits

/-- What stands in front of the last mark of a text, and what stands behind it. -/
theorem eq_of_last_mark {m : Char} {a b s t : Text} (hs : m ∉ s) (ht : m ∉ t)
    (h : a ++ m :: s = b ++ m :: t) : a = b ∧ s = t := by
  rcases List.append_eq_append_iff.1 h with ⟨c, rfl, hc⟩ | ⟨c, rfl, hc⟩
  · cases c with
    | nil => exact ⟨(List.append_nil a).symm, (List.cons.inj hc).2⟩
    | cons x c =>
      obtain ⟨rfl, rfl⟩ := List.cons.inj hc
      exact absurd (List.mem_append_right c (List.mem_cons_self ..)) hs
  · cases c with
    | nil => exact ⟨List.append_nil b, (List.cons.inj hc).2.symm⟩
    | cons x c =>
      obtain ⟨rfl, rfl⟩ := List.cons.inj hc
      exact absurd (List.mem_append_right c (List.mem_cons_self ..)) ht

end Text

namespace Hook

open Syntax

/-! ## 1.  Occurrences -/

variable {before l : List Text} {c : Text} {k : Nat}

/-- The entries of a list, each with the number of its occurrence, when some entries have occurred
before. -/
def occurrencesFrom (before : List Text) : List Text → List (Text × Nat)
  | [] => []
  | c :: l => (c, before.count c + 1) :: occurrencesFrom (c :: before) l

/-- **The occurrences of one entry** are numbered on from those before. -/
theorem filter_occurrencesFrom (before l : List Text) (c : Text) :
    (occurrencesFrom before l).filter (·.1 = c) =
      (List.range' (before.count c + 1) (l.count c)).map fun k => (c, k) := by
  induction l generalizing before with
  | nil => rfl
  | cons d l ih =>
    rw [occurrencesFrom, List.filter_cons, ih]
    by_cases h : d = c
    · rw [if_pos (decide_eq_true h), h, List.count_cons_self, List.count_cons_self,
        List.range'_succ, List.map_cons]
    · rw [if_neg (by rwa [decide_eq_true_eq]), List.count_cons_of_ne h, List.count_cons_of_ne h]

theorem mem_occurrencesFrom : (c, k) ∈ occurrencesFrom before l ↔
    before.count c < k ∧ k ≤ before.count c + l.count c := by
  have hfilter : (c, k) ∈ occurrencesFrom before l ↔
      (c, k) ∈ (occurrencesFrom before l).filter (·.1 = c) := by
    rw [List.mem_filter, and_iff_left (decide_eq_true rfl)]
  rw [hfilter, filter_occurrencesFrom, List.mem_map]
  constructor
  · rintro ⟨j, hj, heq⟩
    obtain ⟨-, rfl⟩ := Prod.mk.inj heq
    rw [List.mem_range'_1] at hj
    omega
  · intro hk
    refine ⟨k, ?_, rfl⟩
    rw [List.mem_range'_1]
    omega

/-- The occurrences of an entry are numbered from one. -/
theorem mem_occurrences : (c, k) ∈ occurrencesFrom [] l ↔ 1 ≤ k ∧ k ≤ l.count c := by
  rw [mem_occurrencesFrom, List.count_nil, Nat.zero_add, Nat.lt_iff_add_one_le]

/-- No occurrence is counted twice. -/
theorem nodup_occurrencesFrom (before l : List Text) : (occurrencesFrom before l).Nodup := by
  induction l generalizing before with
  | nil => exact List.nodup_nil
  | cons c l ih =>
    rw [occurrencesFrom, List.nodup_cons]
    refine ⟨fun hmem => ?_, ih (c :: before)⟩
    -- behind an occurrence there are only greater numbers
    obtain ⟨hlt, -⟩ := mem_occurrencesFrom.1 hmem
    rw [List.count_cons_self] at hlt
    exact Nat.lt_irrefl _ hlt

/-! ## 2.  Numbered identifiers -/

theorem numbered_one (id : Text) : numbered id 1 = id := if_neg (Nat.lt_irrefl 1)

theorem numbered_of_lt {k : Nat} (id : Text) (hk : 1 < k) :
    numbered id k = id ++ '-' :: Text.ofNat k := if_pos hk

/-- A text is not the same with something behind it. -/
theorem ne_append_cons (t : Text) (c : Char) (r : Text) : t ≠ t ++ c :: r := by
  intro h
  have hlength := congrArg List.length h
  rw [List.length_append, List.length_cons] at hlength
  omega

/-- **When two numbered identifiers are equal**: in number and beginning, or because one beginning
is the other one with a number. -/
theorem numbered_eq_iff {p q : Text} {j k : Nat} (hj : 1 ≤ j) (hk : 1 ≤ k) :
    numbered p j = numbered q k ↔ (p = q ∧ j = k) ∨
      (j = 1 ∧ 1 < k ∧ p = q ++ '-' :: Text.ofNat k) ∨
      (1 < j ∧ k = 1 ∧ q = p ++ '-' :: Text.ofNat j) := by
  have hdigits : ∀ n, '-' ∉ Text.ofNat n := Text.not_mem_ofNat (by decide)
  rcases Nat.eq_or_lt_of_le hj with rfl | hj
  · rcases Nat.eq_or_lt_of_le hk with rfl | hk
    · rw [numbered_one, numbered_one]
      exact ⟨fun h => .inl ⟨h, rfl⟩, by rintro (⟨h, -⟩ | ⟨-, h, -⟩ | ⟨h, -⟩) <;> omega⟩
    · rw [numbered_one, numbered_of_lt q hk]
      exact ⟨fun h => .inr (.inl ⟨rfl, hk, h⟩), by
        rintro (⟨-, h⟩ | ⟨-, -, h⟩ | ⟨h, -⟩)
        · omega
        · exact h
        · omega⟩
  · rcases Nat.eq_or_lt_of_le hk with rfl | hk
    · rw [numbered_one, numbered_of_lt p hj]
      exact ⟨fun h => .inr (.inr ⟨hj, rfl, h.symm⟩), by
        rintro (⟨-, h⟩ | ⟨h, -⟩ | ⟨-, -, h⟩)
        · omega
        · omega
        · exact h.symm⟩
    · rw [numbered_of_lt p hj, numbered_of_lt q hk]
      constructor
      · intro h
        obtain ⟨hpq, hjk⟩ := Text.eq_of_last_mark (hdigits j) (hdigits k) h
        exact .inl ⟨hpq, Text.ofNat_injective hjk⟩
      · rintro (⟨rfl, rfl⟩ | ⟨h, -⟩ | ⟨-, h, -⟩)
        · rfl
        · omega
        · omega

/-- Identifiers with one beginning are equal only if their numbers are. -/
theorem numbered_injective {id : Text} {j k : Nat} (hj : 1 ≤ j) (hk : 1 ≤ k)
    (h : numbered id j = numbered id k) : j = k := by
  rcases (numbered_eq_iff hj hk).1 h with ⟨-, h⟩ | ⟨-, -, h⟩ | ⟨-, -, h⟩
  · exact h
  · exact absurd h (ne_append_cons _ _ _)
  · exact absurd h (ne_append_cons _ _ _)

/-! ## 3.  Plans -/

/-- The identifier of the first planned element of a component, as its policy has it. -/
def firstId (sectionId : Text) (policies : Table Policy) (component : Text) : Text :=
  identifier sectionId (((policies.get? component).bind Policy.pattern).getD [])

theorem firstId_of_target? {d : Draft} {policies : Table Policy} {e : Element}
    {component pattern : Text} (h : target? d policies e = some (component, pattern))
    (sectionId : Text) : firstId sectionId policies component = identifier sectionId pattern := by
  obtain ⟨-, -, p, hp, hpattern, -⟩ := target?_eq_some h
  rw [firstId, hp, Option.bind_some, hpattern, Option.getD_some]

/-- An occurrence of a component, with its identifier. -/
def idAt (sectionId : Text) (policies : Table Policy) (x : Text × Nat) : Text × Text :=
  (x.1, numbered (firstId sectionId policies x.1) x.2)

theorem map_planFrom (d : Draft) (sectionId : Text) (policies : Table Policy) (before : List Text)
    (es : List Element) :
    (planFrom d sectionId policies before es).map (fun s => (s.component, s.id)) =
      (occurrencesFrom before ((planFrom d sectionId policies before es).map (·.component))).map
        (idAt sectionId policies) := by
  induction es generalizing before with
  | nil => rfl
  | cons e es ih =>
    rw [planFrom]
    split
    · exact ih before
    · rename_i component pattern ht
      rw [List.map_cons, List.map_cons, occurrencesFrom, List.map_cons, ih, idAt,
        firstId_of_target? ht sectionId]

/-- The components of the elements that are planned, in the order of the file. -/
def componentsOf (ss : List Suggestion) : List Text := ss.map (·.component)

/-- **The identifiers of a plan** are those of the occurrences of its components. -/
theorem map_plan (d : Draft) (sectionId : Text) (policies : Table Policy) :
    (plan d sectionId policies).map (fun s => (s.component, s.id)) =
      (occurrencesFrom [] (componentsOf (plan d sectionId policies))).map
        (idAt sectionId policies) :=
  map_planFrom d sectionId policies [] (Element.list d.nodes)

/-- The identifiers for the elements of one component, in the order of the file. -/
def idsOf (ss : List Suggestion) (component : Text) : List Text :=
  (ss.filter (·.component = component)).map (·.id)

/-- **The identifiers that a plan gives for one component** are its first one and those with the
numbers from two on. -/
theorem idsOf_plan (d : Draft) (sectionId : Text) (policies : Table Policy) (component : Text) :
    idsOf (plan d sectionId policies) component =
      (List.range' 1 ((componentsOf (plan d sectionId policies)).count component)).map
        (numbered (firstId sectionId policies component)) := by
  have hpairs := congrArg (fun l => (l.filter (·.1 = component)).map Prod.snd)
    (map_plan d sectionId policies)
  simp only [List.filter_map, List.map_map] at hpairs
  have hfilter := filter_occurrencesFrom [] (componentsOf (plan d sectionId policies)) component
  rw [List.count_nil, Nat.zero_add] at hfilter
  calc idsOf (plan d sectionId policies) component
      = _ := hpairs
    _ = ((occurrencesFrom [] (componentsOf (plan d sectionId policies))).filter
          (·.1 = component)).map (Prod.snd ∘ idAt sectionId policies) := rfl
    _ = _ := by rw [hfilter, List.map_map]; rfl

/-- An identifier of a plan is a numbered one of one of its components. -/
theorem mem_ids_plan {d : Draft} {sectionId : Text} {policies : Table Policy} {id : Text} :
    (∃ s ∈ plan d sectionId policies, s.id = id) ↔
      ∃ component k, 1 ≤ k ∧ k ≤ (componentsOf (plan d sectionId policies)).count component ∧
        id = numbered (firstId sectionId policies component) k := by
  constructor
  · rintro ⟨s, hs, rfl⟩
    have hpair : (s.component, s.id) ∈
        (plan d sectionId policies).map fun s => (s.component, s.id) := List.mem_map.2 ⟨s, hs, rfl⟩
    rw [map_plan] at hpair
    obtain ⟨⟨component, k⟩, hx, heq⟩ := List.mem_map.1 hpair
    obtain ⟨hk, hcount⟩ := mem_occurrences.1 hx
    exact ⟨component, k, hk, hcount, (congrArg Prod.snd heq).symm⟩
  · rintro ⟨component, k, hk, hcount, rfl⟩
    have hpair := List.mem_map_of_mem (f := idAt sectionId policies)
      (mem_occurrences.2 ⟨hk, hcount⟩)
    rw [← map_plan] at hpair
    obtain ⟨s, hs, heq⟩ := List.mem_map.1 hpair
    exact ⟨s, hs, congrArg Prod.snd heq⟩

/-! ## 4.  First identifiers -/

/-- What a pattern gives that begins with the mark of the section. -/
theorem identifier_sectionMark (sectionId rest : Text) :
    identifier sectionId (sectionMark ++ '-' :: rest) =
      sectionId ++ '-' :: identifier sectionId rest := rfl

/-- What stands behind the section in the patterns of the library's overrides. -/
def endings : List Text := ["link", "table", "downloader"]

theorem ending_of_libraryOverrides : ∀ e ∈ libraryOverrides, ∀ pattern ∈ e.2.pattern.join,
    ∃ ending ∈ endings, pattern = sectionMark ++ '-' :: ending := by
  decide +kernel

/-- **The first identifier of a component** in a file on its own: behind the section stands the name
of the component in lower case, or what an override has in its place. -/
theorem exists_ending {d : Draft} {sectionId path code : Text} {s : Suggestion}
    (hs : s ∈ plan d sectionId (Policy.ofFile path code)) :
    ∃ ending, (ending = kebab s.component ∨ ending ∈ endings) ∧
      firstId sectionId (Policy.ofFile path code) s.component =
        sectionId ++ '-' :: identifier sectionId ending := by
  obtain ⟨-, pattern, -, ht, -⟩ := of_mem_planFrom hs
  obtain ⟨-, -, p, hp, hpattern, -⟩ := target?_eq_some ht
  rw [firstId_of_target? ht]
  obtain ⟨binding, -, heq⟩ := List.mem_map.1 (Table.mem_of_get?_ofList hp)
  obtain ⟨hname, rfl⟩ := Prod.mk.inj heq
  rcases pattern_ofBinding hpattern with rfl | ⟨e, he, hpat⟩
  · rw [hname]
    exact ⟨_, .inl rfl, identifier_sectionMark sectionId _⟩
  · obtain ⟨ending, hending, rfl⟩ := ending_of_libraryOverrides e he pattern (by rw [hpat]; rfl)
    exact ⟨ending, .inr hending, identifier_sectionMark sectionId _⟩

end Hook

end UiHarness
