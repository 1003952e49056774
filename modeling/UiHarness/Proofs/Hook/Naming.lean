import UiHarness.Proofs.Hook.Numbering

/-!
# The law by which hooks are planned

A plan is made in one walk over the elements, with one counter for each component that runs on
through all of them.  What the walk comes to can be said without it: which elements are to get a
hook, each for itself, and which identifier each of them gets from those before it.

The counters are the delicate part.  An element that is passed over, for whatever reason, must not
be counted, and neither must the elements of other components.  Since the plan is the list of the
counted elements, it is enough to count in the plan itself.

* `Text.Cut`: a text in the pieces between the occurrences of a mark, and `Text.exists_cut`.
* `Hook.Due`: an element that is to get a hook by a policy.
* `Hook.Lawful`: the suggestions that the law asks for.
* `Hook.plan_lawful`: every plan is lawful.
-/

namespace UiHarness

namespace Text

/-! ## 1.  Replacing -/

/-- A text in the pieces between the occurrences of a mark.  None of the pieces has the mark in it
any more. -/
structure Cut (mark t : Text) (pieces : List Text) : Prop where
  joined : t = join mark pieces
  clear : ∀ piece ∈ pieces, ¬ mark <:+: piece

theorem join_cons_cons (sep piece next : Text) (pieces : List Text) :
    join sep (piece :: next :: pieces) = piece ++ (sep ++ join sep (next :: pieces)) := by
  rw [join, List.intercalate_cons_cons, List.append_assoc, join]

/-- Joined pieces begin with the first one. -/
theorem prefix_join (sep piece : Text) (pieces : List Text) :
    piece <+: join sep (piece :: pieces) := by
  cases pieces with
  | nil =>
    have hjoin : join sep [piece] = piece := List.intercalate_singleton
    exact hjoin.symm ▸ List.prefix_rfl
  | cons next pieces =>
    rw [join_cons_cons]
    exact List.prefix_append _ _

/-- A character in front of the first piece. -/
theorem join_cons_head (sep : Text) (c : Char) (piece : Text) (pieces : List Text) :
    join sep ((c :: piece) :: pieces) = c :: join sep (piece :: pieces) := by
  cases pieces with
  | nil => rw [join, List.intercalate_singleton, join, List.intercalate_singleton]
  | cons next pieces => rw [join_cons_cons, join_cons_cons, List.cons_append]

variable {mark : Text}

/-- What is still to be passed over is dropped. -/
theorem replaceFrom_eq_drop (mark new : Text) (skip : Nat) (t : Text) :
    replaceFrom mark new skip t = replaceFrom mark new 0 (t.drop skip) := by
  induction skip generalizing t with
  | zero => rfl
  | succ skip ih =>
    cases t with
    | nil => rfl
    | cons c t =>
      rw [replaceFrom, ih]
      rfl

/-- Where the mark stands, the new text comes in its place. -/
theorem replaceFrom_mark (hmark : mark ≠ []) (new rest : Text) :
    replaceFrom mark new 0 (mark ++ rest) = new ++ replaceFrom mark new 0 rest := by
  obtain ⟨c, mark, rfl⟩ := List.exists_cons_of_ne_nil hmark
  have hprefix : (c :: mark).isPrefixOf (c :: (mark ++ rest)) = true :=
    List.isPrefixOf_iff_prefix.2 (List.prefix_append _ _)
  have hskip : (c :: mark).length - 1 = mark.length := by simp
  rw [List.cons_append, replaceFrom, if_pos hprefix, replaceFrom_eq_drop, hskip, List.drop_left]

/-- Where the mark does not stand, nothing changes. -/
theorem replaceFrom_unmarked {c : Char} {t : Text} (h : ¬ mark <+: c :: t) (new : Text) :
    replaceFrom mark new 0 (c :: t) = c :: replaceFrom mark new 0 t := by
  rw [replaceFrom, if_neg fun hprefix => h (List.isPrefixOf_iff_prefix.1 hprefix)]

/-- The pieces between the occurrences of a mark are those between what is put in its place. -/
theorem exists_cut_replaceFrom (hmark : mark ≠ []) (new : Text) :
    ∀ t : Text, ∃ piece pieces, Cut mark t (piece :: pieces) ∧
      replaceFrom mark new 0 t = join new (piece :: pieces)
  | [] => by
    refine ⟨[], [], ⟨rfl, fun piece hpiece => ?_⟩, rfl⟩
    rw [List.mem_singleton.1 hpiece, List.infix_nil]
    exact hmark
  | c :: t => by
    by_cases hprefix : mark <+: c :: t
    · obtain ⟨rest, hrest⟩ := hprefix
      have hlength : rest.length < (c :: t).length := by
        have hpos : 0 < mark.length := List.length_pos_iff.2 hmark
        rw [← hrest, List.length_append]
        omega
      obtain ⟨piece, pieces, hcut, hnew⟩ := exists_cut_replaceFrom hmark new rest
      refine ⟨[], piece :: pieces, ⟨?_, ?_⟩, ?_⟩
      · rw [join_cons_cons, List.nil_append, ← hcut.joined, hrest]
      · intro x hx
        rcases List.mem_cons.1 hx with rfl | hx
        · rw [List.infix_nil]
          exact hmark
        · exact hcut.clear x hx
      · rw [← hrest, replaceFrom_mark hmark, hnew, join_cons_cons, List.nil_append]
    · obtain ⟨piece, pieces, hcut, hnew⟩ := exists_cut_replaceFrom hmark new t
      refine ⟨c :: piece, pieces, ⟨?_, ?_⟩, ?_⟩
      · rw [join_cons_head, ← hcut.joined]
      · intro x hx hinfix
        rcases List.mem_cons.1 hx with rfl | hx
        · -- in the longer piece the mark could only stand at the new character
          have hpiece : c :: piece <+: c :: t := by
            rw [List.cons_prefix_cons, hcut.joined]
            exact ⟨rfl, prefix_join mark piece pieces⟩
          rcases List.infix_cons_iff.1 hinfix with hfront | hin
          · exact hprefix (hfront.trans hpiece)
          · exact hcut.clear piece (List.mem_cons_self ..) hin
        · exact hcut.clear x (List.mem_cons_of_mem _ hx) hinfix
      · rw [replaceFrom_unmarked hprefix, hnew, join_cons_head]
termination_by t => t.length
decreasing_by
  · exact hlength
  · exact Nat.lt_add_one _

/-- **Replacing puts the new text in the place of every mark.** -/
theorem exists_cut (hmark : mark ≠ []) (t new : Text) :
    ∃ pieces, Cut mark t pieces ∧ replaceAll t mark new = join new pieces := by
  obtain ⟨piece, pieces, hcut, hnew⟩ := exists_cut_replaceFrom hmark new t
  refine ⟨piece :: pieces, hcut, ?_⟩
  rw [replaceAll, if_neg (by rwa [List.isEmpty_iff]), hnew]

end Text

namespace Hook

open Syntax

/-! ## 2.  Elements that are to get a hook -/

/-- **An element that is to get a hook** by the policy for the component that its name refers to. -/
structure Due (d : Draft) (policyOf : Text → Option Policy) (e : Element) (component : Text)
    (p : Policy) : Prop where
  named : e.component? = some component
  governed : policyOf component = some p
  injects : p.injects = true
  /-- It has no hook in the file. -/
  bare : ∀ a ∈ e.attributes, a.name ≠ attributeName
  /-- It has none among the texts that are to be inserted at its head. -/
  free : ∀ o, e.room? = some o → ∀ t ∈ d.textsAt o,
    ¬ attributeName ++ ['='] <+: Text.stripStart t
  external : p.onlyExternal = true → ∃ a ∈ e.attributes, a.name = externalAttribute
  special : p.skipUnlessSpecial = true →
    ∃ a ∈ e.attributes, a.name ∈ specialAttributes.map String.toList

theorem hasAttribute_iff {e : Element} {name : Text} :
    e.hasAttribute name = true ↔ ∃ a ∈ e.attributes, a.name = name := by
  rw [Element.hasAttribute, Element.attribute?, List.find?_isSome]
  simp only [decide_eq_true_eq]

theorem hasHook_eq_false_iff {d : Draft} {e : Element} :
    hasHook d e = false ↔ (∀ a ∈ e.attributes, a.name ≠ attributeName) ∧
      ∀ o, e.room? = some o → ∀ t ∈ d.textsAt o,
        ¬ attributeName ++ ['='] <+: Text.stripStart t := by
  have hattribute : e.hasAttribute attributeName = false ↔
      ∀ a ∈ e.attributes, a.name ≠ attributeName := by
    rw [← Bool.not_eq_true, hasAttribute_iff]
    simp
  rw [hasHook, Bool.or_eq_false_iff, hattribute]
  refine and_congr_right fun _ => ?_
  cases hroom : e.room? with
  | none => simp
  | some o =>
    simp only [Option.some.injEq, forall_eq', List.any_eq_false, isHook, Text.startsWith,
      List.isPrefixOf_iff_prefix]

theorem meets_iff {p : Policy} {e : Element} : meets p e = true ↔
    (p.onlyExternal = true → ∃ a ∈ e.attributes, a.name = externalAttribute) ∧
      (p.skipUnlessSpecial = true →
        ∃ a ∈ e.attributes, a.name ∈ specialAttributes.map String.toList) := by
  have hspecial : (specialAttributes.any fun a => e.hasAttribute a) = true ↔
      ∃ a ∈ e.attributes, a.name ∈ specialAttributes.map String.toList := by
    rw [List.any_eq_true]
    simp only [hasAttribute_iff, List.mem_map]
    constructor
    · rintro ⟨name, hname, a, ha, heq⟩
      exact ⟨a, ha, name, hname, heq.symm⟩
    · rintro ⟨a, ha, name, hname, heq⟩
      exact ⟨name, hname, a, ha, heq.symm⟩
  rw [meets, Bool.and_eq_true, Bool.or_eq_true, Bool.or_eq_true, hspecial, hasAttribute_iff,
    Bool.not_eq_true', Bool.not_eq_true']
  cases p.onlyExternal <;> cases p.skipUnlessSpecial <;> simp

/-- **An element is planned exactly if it is to get a hook.** -/
theorem target?_eq_some_iff {d : Draft} {policies : Table Policy} {e : Element}
    {component pattern : Text} : target? d policies e = some (component, pattern) ↔
      ∃ p, Due d policies.get? e component p ∧ p.pattern = some pattern := by
  constructor
  · intro h
    obtain ⟨hnamed, hhook, p, hp, hpattern, hinjects, hmeets⟩ := target?_eq_some h
    obtain ⟨hbare, hfree⟩ := hasHook_eq_false_iff.1 hhook
    obtain ⟨hexternal, hspecial⟩ := meets_iff.1 hmeets
    exact ⟨p, ⟨hnamed, hp, hinjects, hbare, hfree, hexternal, hspecial⟩, hpattern⟩
  · rintro ⟨p, hdue, hpattern⟩
    have hhook : hasHook d e = false := hasHook_eq_false_iff.2 ⟨hdue.bare, hdue.free⟩
    have hmeets : meets p e = true := meets_iff.2 ⟨hdue.external, hdue.special⟩
    simp [target?, hdue.named, hdue.governed, hpattern, hdue.injects, hhook, hmeets]

/-- A policy that gives hooks has a pattern. -/
theorem exists_pattern {p : Policy} (h : p.injects = true) :
    ∃ pattern, p.pattern = some pattern := by
  simp only [Policy.injects, Bool.and_eq_true] at h
  exact Option.isSome_iff_exists.1 h.1.1

/-! ## 3.  The law -/

/-- **The suggestions that the law asks for.** -/
structure Lawful (d : Draft) (sectionId : Text) (policyOf : Text → Option Policy)
    (ss : List Suggestion) : Prop where
  /-- The elements of the file that are to get a hook, and no others. -/
  elements : ∀ e, (∃ s ∈ ss, s.element = e) ↔
    Element.Occurs {} d.nodes e ∧ ∃ component p, Due d policyOf e component p
  /-- They come in the order of the file, each once. -/
  ordered : ss.Pairwise fun a b => a.element.start.offset < b.element.start.offset
  /-- Each has the pattern of its policy with the section in the place of every mark, and from the
  second one of its component on the number that it has among these. -/
  named : ∀ before s after, ss = before ++ s :: after → ∃ p pattern pieces,
    Due d policyOf s.element s.component p ∧ p.pattern = some pattern ∧
      Text.Cut sectionMark pattern pieces ∧
      s.id = numbered (Text.join sectionId pieces) ((componentsOf before).count s.component + 1)

theorem length_occurrencesFrom (before l : List Text) :
    (occurrencesFrom before l).length = l.length := by
  induction l generalizing before with
  | nil => rfl
  | cons c l ih => rw [occurrencesFrom, List.length_cons, List.length_cons, ih]

theorem occurrencesFrom_append (before l l' : List Text) :
    occurrencesFrom before (l ++ l') =
      occurrencesFrom before l ++ occurrencesFrom (l.reverse ++ before) l' := by
  induction l generalizing before with
  | nil => rfl
  | cons c l ih =>
    rw [List.cons_append, occurrencesFrom, occurrencesFrom, ih, List.cons_append,
      List.reverse_cons, List.append_assoc, List.singleton_append]

/-- **The number of a suggestion** is the one that it has among those for its component. -/
theorem id_of_plan {d : Draft} {sectionId : Text} {policies : Table Policy}
    {before after : List Suggestion} {s : Suggestion}
    (h : plan d sectionId policies = before ++ s :: after) :
    s.id = numbered (firstId sectionId policies s.component)
      ((componentsOf before).count s.component + 1) := by
  have hpairs := map_plan d sectionId policies
  rw [h, componentsOf, List.map_append, List.map_append, List.map_cons, List.map_cons,
    occurrencesFrom_append, List.map_append, occurrencesFrom, List.map_cons] at hpairs
  have hlength : (before.map fun s => (s.component, s.id)).length =
      ((occurrencesFrom [] (before.map (·.component))).map (idAt sectionId policies)).length := by
    rw [List.length_map, List.length_map, length_occurrencesFrom, List.length_map]
  obtain ⟨hpair, -⟩ := List.cons.inj (List.append_inj hpairs hlength).2
  have hid := congrArg Prod.snd hpair
  rw [List.append_nil, idAt, List.count_reverse] at hid
  exact hid

/-- A plan for policies in a table is lawful. -/
theorem lawful_plan (d : Draft) (sectionId : Text) (policies : Table Policy) :
    Lawful d sectionId policies.get? (plan d sectionId policies) := by
  have helements := map_element_planFrom d sectionId policies [] (Element.list d.nodes)
  refine ⟨fun e => ?_, ?_, fun before s after hsplit => ?_⟩
  · have hmem : (∃ s ∈ plan d sectionId policies, s.element = e) ↔
        e ∈ (Element.list d.nodes).filter fun e => (target? d policies e).isSome := by
      rw [← helements, List.mem_map]
      rfl
    rw [hmem, List.mem_filter, Element.list_eq, Element.mem_listFrom_iff]
    refine and_congr_right fun _ => ?_
    rw [Option.isSome_iff_exists]
    constructor
    · rintro ⟨⟨component, pattern⟩, ht⟩
      obtain ⟨p, hdue, -⟩ := target?_eq_some_iff.1 ht
      exact ⟨component, p, hdue⟩
    · rintro ⟨component, p, hdue⟩
      obtain ⟨pattern, hpattern⟩ := exists_pattern hdue.injects
      exact ⟨(component, pattern), target?_eq_some_iff.2 ⟨p, hdue, hpattern⟩⟩
  · have hstarts := (Element.pairwise_start_list d.nodes).filter
      fun e => (target? d policies e).isSome
    rw [← helements, List.pairwise_map] at hstarts
    exact hstarts
  · have hs : s ∈ plan d sectionId policies := by
      rw [hsplit]
      exact List.mem_append_right _ (List.mem_cons_self ..)
    obtain ⟨-, pattern, -, ht, -⟩ := of_mem_planFrom hs
    obtain ⟨p, hdue, hpattern⟩ := target?_eq_some_iff.1 ht
    obtain ⟨pieces, hcut, hjoin⟩ :=
      Text.exists_cut (show sectionMark ≠ [] by decide) pattern sectionId
    refine ⟨p, pattern, pieces, hdue, hpattern, hcut, ?_⟩
    rw [id_of_plan hsplit, firstId_of_target? ht, identifier, hjoin]

/-- Of several policies for one component the last one counts. -/
theorem get?_tableOf (policies : List Policy) (component : Text) :
    (Policy.tableOf policies).get? component =
      policies.reverse.find? (·.name = component) := by
  rw [Policy.tableOf, Table.ofList, Table.get?_insertAll, ← List.map_reverse, List.find?_map,
    Option.map_map]
  have hempty : (Table.empty : Table Policy).get? component = none := rfl
  have hsame : (Prod.snd ∘ fun p : Policy => (p.name, p)) = id := rfl
  rw [hempty, Option.or_none, hsame, Option.map_id]
  rfl

/-- **Planning follows the law**, for every file with any texts that are to be inserted, every
section, and every choice of policies, in a table or one after the other. -/
theorem plan_lawful (d : Draft) (sectionId : Text) :
    (∀ policies : Table Policy, Lawful d sectionId policies.get? (plan d sectionId policies)) ∧
      ∀ policies : List Policy,
        Lawful d sectionId (fun component => policies.reverse.find? (·.name = component))
          (plan d sectionId (Policy.tableOf policies)) := by
  refine ⟨lawful_plan d sectionId, fun policies => ?_⟩
  rw [← funext (get?_tableOf policies)]
  exact lawful_plan d sectionId (Policy.tableOf policies)

/-- Inside an element that is given the first hook, one that has a hook is not counted. -/
example : (plan { nodes := [.element [] (some (.simple "A")) [] [] [
      .element [] (some (.simple "A")) [] [.attr attributeName [] none []] [] none,
      .element [] (some (.simple "A")) [] [] [] none] (some "</A>")] } "s" linkPolicies).map
        (·.id) = ["s-a".toList, "s-a-2".toList] := by
  decide +kernel

end Hook

end UiHarness
