import UiHarness.Proofs.Hook.Numbering
import UiHarness.Proofs.Hook.Rereading
import UiHarness.Proofs.Steps

/-!
# Which identifiers of a file are the same

The planned elements of a file are numbered for each component on its own, and elements that have a
hook already are passed over before anything is counted.  So the identifiers for one component are
different, and nothing more is looked after: those of two components are the same if their policies
say so, and those of a second run begin again from the first one, whatever the file has already.

* `Hook.Clash`: two components have an identifier in common.
* `Hook.distinct_ids`: when all identifiers that are planned for a file are different.
* `Hook.Restarted`: what a plan takes into account of the hooks that a file has.
* `Hook.restarted_ids`: when an identifier is planned that the file has already.
-/

namespace UiHarness.Hook

open Syntax

/-! ## 1.  Identifiers of one plan -/

/-- Two components, of the second of which `n` elements are planned, have an identifier in common:
their first ones are the same, or the first one of the one is a numbered one of the other. -/
def Clash (sectionId : Text) (policies : Table Policy) (n : Nat) (c c' : Text) : Prop :=
  firstId sectionId policies c = firstId sectionId policies c' ∨
    ∃ k, 1 < k ∧ k ≤ n ∧
      firstId sectionId policies c = firstId sectionId policies c' ++ '-' :: Text.ofNat k

/-- How far the identifiers of a plan are different. -/
structure Distinct (sectionId : Text) (policies : Table Policy) (ss : List Suggestion) : Prop where
  /-- The identifiers for one component are different. -/
  apart : (ss.map fun s => (s.component, s.id)).Nodup
  /-- All are different exactly if no two components have one in common. -/
  nodup_iff : (ss.map (·.id)).Nodup ↔ ∀ c ∈ componentsOf ss, ∀ c' ∈ componentsOf ss, c ≠ c' →
    ¬ Clash sectionId policies ((componentsOf ss).count c') c c'

theorem apart_plan (d : Draft) (sectionId : Text) (policies : Table Policy) :
    ((plan d sectionId policies).map fun s => (s.component, s.id)).Nodup := by
  rw [map_plan]
  refine (nodup_occurrencesFrom _ _).map_on fun ⟨c, j⟩ hx ⟨c', k⟩ hy heq => ?_
  obtain ⟨hc, hnumbered⟩ := Prod.mk.inj heq
  obtain rfl : c = c' := hc
  rw [numbered_injective (mem_occurrences.1 hx).1 (mem_occurrences.1 hy).1 hnumbered]

/-- An occurrence of a component has an identifier of another one only if the two have one in
common. -/
theorem clash_of_numbered {sectionId : Text} {policies : Table Policy} {c c' : Text}
    {j k m n : Nat} (hj : 1 ≤ j ∧ j ≤ m) (hk : 1 ≤ k ∧ k ≤ n)
    (h : numbered (firstId sectionId policies c) j = numbered (firstId sectionId policies c') k) :
    Clash sectionId policies n c c' ∨ Clash sectionId policies m c' c := by
  rcases (numbered_eq_iff hj.1 hk.1).1 h with ⟨h, -⟩ | ⟨-, hlt, h⟩ | ⟨hlt, -, h⟩
  · exact .inl (.inl h)
  · exact .inl (.inr ⟨k, hlt, hk.2, h⟩)
  · exact .inr (.inr ⟨j, hlt, hj.2, h⟩)

/-- Two components that have an identifier in common have it at some of their occurrences. -/
theorem Clash.exists_numbered {sectionId : Text} {policies : Table Policy} {n : Nat} {c c' : Text}
    (h : Clash sectionId policies n c c') (hn : 1 ≤ n) : ∃ k, 1 ≤ k ∧ k ≤ n ∧
      numbered (firstId sectionId policies c) 1 = numbered (firstId sectionId policies c') k := by
  rcases h with h | ⟨k, hlt, hk, h⟩
  · exact ⟨1, Nat.le_refl 1, hn, by rw [h]⟩
  · exact ⟨k, Nat.le_of_lt hlt, hk, by rw [numbered_one, numbered_of_lt _ hlt, h]⟩

/-- **All identifiers of a plan are different** exactly if no two components have one in common. -/
theorem nodup_ids_plan (d : Draft) (sectionId : Text) (policies : Table Policy) :
    ((plan d sectionId policies).map (·.id)).Nodup ↔
      ∀ c ∈ componentsOf (plan d sectionId policies),
        ∀ c' ∈ componentsOf (plan d sectionId policies), c ≠ c' →
        ¬ Clash sectionId policies ((componentsOf (plan d sectionId policies)).count c') c c' := by
  have hids := congrArg (List.map Prod.snd) (map_plan d sectionId policies)
  rw [List.map_map, List.map_map] at hids
  have hinj := List.nodup_map_iff_inj_on (f := Prod.snd ∘ idAt sectionId policies)
    (nodup_occurrencesFrom [] (componentsOf (plan d sectionId policies)))
  rw [← hids] at hinj
  refine hinj.trans ⟨fun hall c hc c' hc' hne hclash => ?_, fun hnone x hx y hy heq => ?_⟩
  · -- an identifier in common belongs to occurrences of both components
    obtain ⟨k, hk, hcount, hnumbered⟩ :=
      hclash.exists_numbered (List.one_le_count_iff.2 hc')
    have hsame := hall (c, 1) (mem_occurrences.2 ⟨Nat.le_refl 1, List.one_le_count_iff.2 hc⟩)
      (c', k) (mem_occurrences.2 ⟨hk, hcount⟩) hnumbered
    exact hne (congrArg Prod.fst hsame)
  · obtain ⟨c, j⟩ := x
    obtain ⟨c', k⟩ := y
    have hj := mem_occurrences.1 hx
    have hk := mem_occurrences.1 hy
    by_cases hc : c = c'
    · subst hc
      rw [numbered_injective hj.1 hk.1 heq]
    · have hmem := List.one_le_count_iff.1 (Nat.le_trans hj.1 hj.2)
      have hmem' := List.one_le_count_iff.1 (Nat.le_trans hk.1 hk.2)
      rcases clash_of_numbered hj hk heq with hclash | hclash
      · exact absurd hclash (hnone c hmem c' hmem' hc)
      · exact absurd hclash (hnone c' hmem' c hmem (Ne.symm hc))

/-- **When all identifiers that are planned for a file are different.**  For every file that can be
read and every section, with the policies from its own imports, the identifiers for one component
are different.  Those of all components are different exactly if no two of them have the same first
identifier, and no first identifier is that of another component with a number that is reached.
Behind the section, the first identifier is the name of the component in lower case, or what an
override has in its place. -/
theorem distinct_ids (sectionId : Text) {path code : Text} {nodes : List Node}
    (hread : Syntax.read path code = .ok nodes) (trial : Bool) :
    ∃ t, transformAlone sectionId path trial code = .ok t ∧
      Distinct sectionId (Policy.ofFile path code) t.suggestions ∧
      ∀ s ∈ t.suggestions, ∃ ending, (ending = kebab s.component ∨ ending ∈ endings) ∧
        firstId sectionId (Policy.ofFile path code) s.component =
          sectionId ++ '-' :: identifier sectionId ending :=
  ⟨_, transform_eq hread trial,
    ⟨apart_plan { nodes } sectionId _, nodup_ids_plan { nodes } sectionId _⟩,
    fun _ hs => exists_ending hs⟩

/-- A file in which one component is known under two names. -/
def aliasCode : Text :=
  "import {Link, Link as Anchor} from \"ui\";<Link external><Anchor external/></Link>"

theorem exists_plan_aliasCode : ∃ nodes, Syntax.read "a.tsx" aliasCode = .ok nodes ∧
    (plan { nodes } "s" (Policy.ofFile "a.tsx" aliasCode)).map (·.id) =
      ["s-link".toList, "s-link".toList] := by
  have h : (Syntax.read "a.tsx" aliasCode).toOption.any (fun nodes =>
      (plan { nodes } "s" (Policy.ofFile "a.tsx" aliasCode)).map (·.id) =
        ["s-link".toList, "s-link".toList]) = true := by
    decide +kernel
  obtain ⟨nodes, hread, hids⟩ := Except.exists_of_any h
  exact ⟨nodes, hread, of_decide_eq_true hids⟩

/-- **Two names of one component have the same identifier**: it comes from the override of the
component, and each name is counted on its own. -/
theorem aliases_clash : ∃ nodes t, Syntax.read "a.tsx" aliasCode = .ok nodes ∧
    transformAlone "s" "a.tsx" true aliasCode = .ok t ∧ ¬ (t.suggestions.map (·.id)).Nodup := by
  obtain ⟨nodes, hread, hids⟩ := exists_plan_aliasCode
  refine ⟨nodes, _, hread, transform_eq hread true, ?_⟩
  dsimp only
  rw [hids]
  decide

/-- The case of this file. -/
theorem distinct_ids_aliases : ∃ nodes t, Syntax.read "a.tsx" aliasCode = .ok nodes ∧
    transformAlone "s" "a.tsx" true aliasCode = .ok t ∧
    Distinct "s" (Policy.ofFile "a.tsx" aliasCode) t.suggestions := by
  obtain ⟨nodes, hread, -⟩ := exists_plan_aliasCode
  obtain ⟨t, ht, hdistinct, -⟩ := distinct_ids "s" hread true
  exact ⟨nodes, t, hread, ht, hdistinct⟩

/-! ## 2.  Identifiers that a file has already -/

/-- Elements with hooks are passed over in planning. -/
theorem planFrom_filter (nodes : List Node) (sectionId : Text) (policies : Table Policy)
    (before : List Text) (es : List Element) :
    planFrom { nodes } sectionId policies before
        (es.filter fun e => !e.hasAttribute attributeName) =
      planFrom { nodes } sectionId policies before es := by
  induction es generalizing before with
  | nil => rfl
  | cons e es ih =>
    rw [List.filter_cons]
    cases hhook : e.hasAttribute attributeName with
    | false =>
      rw [if_pos (by rfl), planFrom, planFrom]
      split
      · exact ih before
      · rw [ih]
    | true =>
      have hnone : target? { nodes } policies e = none := by
        refine Option.eq_none_iff_forall_ne_some.2 fun x hx => ?_
        obtain ⟨-, hfree, -⟩ := target?_eq_some hx
        rw [hasHook_bare, hhook] at hfree
        cases hfree
      rw [if_neg (by exact Bool.false_ne_true), planFrom, hnone, ih]

/-- New identifiers repeat old ones: as many of them as there were old ones are among these, and the
others are not. -/
def Repeats (old new : List Text) : Prop :=
  (∀ id ∈ new.take old.length, id ∈ old) ∧ ∀ id ∈ new.drop old.length, id ∉ old

/-- Numbered identifiers with one beginning repeat each other. -/
theorem repeats_numbered (id : Text) (m n : Nat) :
    Repeats ((List.range' 1 m).map (numbered id)) ((List.range' 1 n).map (numbered id)) := by
  rw [Repeats, List.length_map, List.length_range', ← List.map_take, ← List.map_drop]
  constructor
  · intro x hx
    obtain ⟨k, hk, rfl⟩ := List.mem_map.1 hx
    refine List.mem_map_of_mem ?_
    obtain ⟨i, hi, rfl⟩ := List.mem_take_iff_getElem.1 hk
    rw [List.length_range'] at hi
    rw [List.getElem_range', List.mem_range'_1]
    omega
  · intro x hx hold
    obtain ⟨k, hk, rfl⟩ := List.mem_map.1 hx
    obtain ⟨j, hj, heq⟩ := List.mem_map.1 hold
    obtain ⟨i, hi, rfl⟩ := List.mem_drop_iff_getElem.1 hk
    rw [List.getElem_range'] at heq
    rw [List.mem_range'_1] at hj
    have hsame := numbered_injective hj.1 (by omega) heq
    omega

/-- What a plan takes into account of the hooks that a file has: nothing but that their elements
need none. -/
structure Restarted (sectionId : Text) (policies : Table Policy) (nodes : List Node)
    (ss : List Suggestion) : Prop where
  /-- The plan is that of the elements without hooks. -/
  passed : ss = planFrom { nodes } sectionId policies []
    ((Element.list nodes).filter fun e => !e.hasAttribute attributeName)
  /-- So the numbers of each component begin with one. -/
  ids : ∀ c, idsOf ss c =
    (List.range' 1 ((componentsOf ss).count c)).map (numbered (firstId sectionId policies c))
  /-- An identifier that an element of the file has is given again exactly if it is one of these. -/
  again_iff : ∀ e ∈ Element.list nodes, ∀ id, idOf? e = some id →
    ((∃ s ∈ ss, s.id = id) ↔ ∃ c k, 1 ≤ k ∧ k ≤ (componentsOf ss).count c ∧
      id = numbered (firstId sectionId policies c) k)
  /-- What another run has given to elements of a component is repeated, as far as it goes, if the
  first identifier of the component was the same. -/
  repeats : ∀ (other : List Node) (policies' : Table Policy) (c : Text),
    firstId sectionId policies' c = firstId sectionId policies c →
      Repeats (idsOf (plan { nodes := other } sectionId policies') c) (idsOf ss c)

/-- **When an identifier is planned that the file has already.**  For every file that can be read
and every section, with the policies from its own imports, the plan is that of the elements without
hooks, and the identifiers for each component are its first one and those with the numbers from two
on.  An identifier that the file has is given again exactly if it is among these.  So if a run
before has given hooks to `m` elements of a component, the identifiers of the first `m` elements
that are planned now are among those of that run, and the identifiers of the others are not. -/
theorem restarted_ids (sectionId : Text) {path code : Text} {nodes : List Node}
    (hread : Syntax.read path code = .ok nodes) (trial : Bool) :
    ∃ t, transformAlone sectionId path trial code = .ok t ∧
      Restarted sectionId (Policy.ofFile path code) nodes t.suggestions := by
  refine ⟨_, transform_eq hread trial, (planFrom_filter nodes sectionId _ [] _).symm,
    idsOf_plan { nodes } sectionId _, fun _ _ _ _ => mem_ids_plan, ?_⟩
  intro other policies' c hfirst
  rw [idsOf_plan, hfirst]
  dsimp only
  rw [idsOf_plan]
  exact repeats_numbered _ _ _

/-- The beginning of a file with one element. -/
def onceFront : Text := "import A from \"ui\";<A"

/-- The end of this file. -/
def onceBack : Text := "></A>"

/-- The file after a run, with a new element inside the one that was given a hook. -/
def grownCode : Text := onceFront ++ attributeText "s-a" ++ "><A/></A>"

theorem exists_plan_grownCode : ∃ nodes, Syntax.read "a.tsx" grownCode = .ok nodes ∧
    (Element.list nodes).any (fun e => idOf? e = some "s-a".toList) = true ∧
    (plan { nodes } "s" (Policy.ofFile "a.tsx" grownCode)).map (·.id) = ["s-a".toList] := by
  have h : (Syntax.read "a.tsx" grownCode).toOption.any (fun nodes =>
      (Element.list nodes).any (fun e => idOf? e = some "s-a".toList) = true ∧
      (plan { nodes } "s" (Policy.ofFile "a.tsx" grownCode)).map (·.id) =
        ["s-a".toList]) = true := by
    decide +kernel
  obtain ⟨nodes, hread, hids⟩ := Except.exists_of_any h
  exact ⟨nodes, hread, of_decide_eq_true hids⟩

/-- **A second run gives an identifier again**: the first run gave the only element its hook, and a
new element inside of it is to get the same. -/
theorem id_given_again : ∃ first nodes t e s,
    transformAlone "s" "a.tsx" false (onceFront ++ onceBack) = .ok first ∧
    first.code = onceFront ++ attributeText "s-a" ++ onceBack ∧
    Syntax.read "a.tsx" grownCode = .ok nodes ∧
    transformAlone "s" "a.tsx" true grownCode = .ok t ∧
    e ∈ Element.list nodes ∧ s ∈ t.suggestions ∧ idOf? e = some s.id := by
  have hfirst : (transformAlone "s" "a.tsx" false (onceFront ++ onceBack)).toOption.any (fun t =>
      t.code = onceFront ++ attributeText "s-a" ++ onceBack) = true := by
    decide +kernel
  obtain ⟨first, hfirst, hcode⟩ := Except.exists_of_any hfirst
  obtain ⟨nodes, hread, hhas, hids⟩ := exists_plan_grownCode
  obtain ⟨e, he, hid⟩ := List.any_eq_true.1 hhas
  obtain ⟨s, hs, hsame⟩ : ∃ s ∈ plan { nodes } "s" (Policy.ofFile "a.tsx" grownCode),
      s.id = "s-a".toList := by
    refine List.mem_map.1 ?_
    rw [hids]
    exact List.mem_cons_self ..
  exact ⟨first, nodes, _, e, s, hfirst, of_decide_eq_true hcode, hread, transform_eq hread true, he,
    hs, by rw [hsame, of_decide_eq_true hid]⟩

/-- The case of this file. -/
theorem restarted_ids_grown : ∃ nodes t, Syntax.read "a.tsx" grownCode = .ok nodes ∧
    transformAlone "s" "a.tsx" true grownCode = .ok t ∧
    Restarted "s" (Policy.ofFile "a.tsx" grownCode) nodes t.suggestions := by
  obtain ⟨nodes, hread, -⟩ := exists_plan_grownCode
  obtain ⟨t, ht, hrestarted⟩ := restarted_ids "s" hread true
  exact ⟨nodes, t, hread, ht, hrestarted⟩

end UiHarness.Hook
