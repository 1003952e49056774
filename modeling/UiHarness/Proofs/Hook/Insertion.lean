import UiHarness.Hook.Transform
import UiHarness.Proofs.Syntax.Merge
import UiHarness.Proofs.Syntax.Order

/-!
# What giving hooks does to a file

A plan is made for the file as it was read, and its suggestions are then applied one after the
other to a draft that changes under them.  That this never comes to nothing rests on the places of
the elements: no two heads coincide, so the hook of one element is not seen at another.

* `Hook.plan_fits`: what is planned can be applied, whatever has been applied before.
* `Hook.addAll_eq`: applying suggestions that fit makes their insertions, all of them.
* `Hook.transform_eq`: what a file becomes, as one equation.
* `Hook.transform_scattered`: the new text is the old one with the hooks put in.
* `Hook.transform_exact`: all that is said of a run on a file that can be read.
-/

namespace UiHarness.Hook

open Syntax

/-! ## 1.  What is planned -/

/-- What an element has that is to get a hook. -/
theorem target?_eq_some {d : Draft} {policies : Table Policy} {e : Element}
    {component pattern : Text} (h : target? d policies e = some (component, pattern)) :
    e.component? = some component ∧ hasHook d e = false ∧
      ∃ p, policies.get? component = some p ∧ p.pattern = some pattern ∧ p.injects = true ∧
        meets p e = true := by
  unfold target? at h
  cases hc : e.component? with
  | none => simp [hc] at h
  | some c =>
    cases hp : policies.get? c with
    | none => simp [hc, hp] at h
    | some p =>
      cases hpat : p.pattern with
      | none => simp [hc, hp, hpat] at h
      | some pat =>
        simp only [hc, hp, hpat, Option.bind_eq_bind, Option.bind_some, Option.ite_none_right_eq_some,
          Option.some.injEq, Prod.mk.injEq, Bool.and_eq_true, Bool.not_eq_true'] at h
        obtain ⟨⟨⟨hi, hh⟩, hm⟩, rfl, rfl⟩ := h
        exact ⟨rfl, hh, p, hp, hpat, hi, hm⟩

/-- The elements of a plan are those that are to get a hook, in their order. -/
theorem map_element_planFrom (d : Draft) (sectionId : Text) (policies : Table Policy)
    (before : List Text) (es : List Element) :
    (planFrom d sectionId policies before es).map Suggestion.element =
      es.filter fun e => (target? d policies e).isSome := by
  induction es generalizing before with
  | nil => rfl
  | cons e es ih =>
    rw [planFrom, List.filter_cons]
    cases ht : target? d policies e with
    | none => exact ih before
    | some x =>
      rw [if_pos (by rfl), List.map_cons, ih]

/-- An element that refers to a component has a place for attributes. -/
theorem room?_of_component? {e : Element} {component : Text} (h : e.component? = some component) :
    e.room? = some e.head.offset := by
  rw [Element.component?, Option.bind_eq_some_iff] at h
  obtain ⟨name, hname, -⟩ := h
  exact Element.room?_of_name (Option.isSome_iff_exists.2 ⟨name, hname⟩)

/-- Without insertions, hooks are attributes in the file. -/
theorem hasHook_bare (nodes : List Node) (e : Element) :
    hasHook { nodes } e = e.hasAttribute attributeName := by
  unfold hasHook
  split
  · exact Bool.or_false _
  · exact Bool.or_false _

/-! ## 2.  What is applied -/

/-- The insertion that a suggestion stands for: its hook, behind the name and the type arguments of
its element. -/
def Suggestion.insertion (s : Suggestion) : Insertion :=
  ⟨s.element.head.offset, attributeText s.id⟩

/-- Suggestions that can be applied to a draft one after the other. -/
structure Fits (d : Draft) (ss : List Suggestion) : Prop where
  room : ∀ s ∈ ss, s.element.room? = some s.element.head.offset
  bare : ∀ s ∈ ss, s.element.hasAttribute attributeName = false
  free : ∀ s ∈ ss, (d.textsAt s.element.head.offset).any isHook = false
  apart : ss.Pairwise fun a b => a.element.head.offset ≠ b.element.head.offset

theorem textsAt_insert_of_ne {d : Draft} {o o' : Int} {t : Text} (h : o ≠ o') :
    (d.insert o t).textsAt o' = d.textsAt o' := by
  have hnone : [(⟨o, t⟩ : Insertion)].filter (·.offset = o') = [] :=
    List.filter_cons_of_neg (by simpa using h)
  rw [Draft.textsAt, Draft.insertions_insert, List.filter_append, hnone, List.append_nil,
    Draft.textsAt]

/-- An element without a hook is given one, if it has a place for it. -/
theorem add?_eq_some {d : Draft} {e : Element} {o : Nat} (hhook : hasHook d e = false)
    (hroom : e.room? = some o) (id : Text) :
    add? d e id = some (d.insert o (attributeText id)) := by
  rw [add?, hhook, if_neg Bool.false_ne_true, hroom]
  rfl

/-- The first suggestion that fits is applied, and then the others still fit: they belong to other
places than its own. -/
theorem Fits.step {d : Draft} {s : Suggestion} {ss : List Suggestion} (h : Fits d (s :: ss)) :
    add? d s.element s.id = some (d.insert s.element.head.offset (attributeText s.id)) ∧
      Fits (d.insert s.element.head.offset (attributeText s.id)) ss := by
  have hmem : s ∈ s :: ss := List.mem_cons_self ..
  have hhook : hasHook d s.element = false := by
    rw [hasHook, h.bare s hmem, h.room s hmem]
    exact h.free s hmem
  refine ⟨?_, fun x hx => h.room x (List.mem_cons_of_mem _ hx),
    fun x hx => h.bare x (List.mem_cons_of_mem _ hx), fun x hx => ?_, (List.pairwise_cons.1 h.apart).2⟩
  · exact add?_eq_some hhook (h.room s hmem) s.id
  · have hne := (List.pairwise_cons.1 h.apart).1 x hx
    rw [textsAt_insert_of_ne (by omega)]
    exact h.free x (List.mem_cons_of_mem _ hx)

/-- **Suggestions that fit are all applied.** -/
theorem addAll_eq {d : Draft} {ss : List Suggestion} (h : Fits d ss) :
    addAll d ss =
      ({ d with insertions := d.insertions ++ ss.map Suggestion.insertion }, ss.length) := by
  induction ss generalizing d with
  | nil => rw [addAll, List.map_nil, List.append_nil, List.length_nil]
  | cons s ss ih =>
    obtain ⟨hadd, hrest⟩ := h.step
    rw [addAll, hadd]
    simp only [ih hrest, Draft.insertions_insert, Draft.nodes_insert, List.map_cons,
      List.append_assoc, List.singleton_append, List.length_cons]
    rfl

/-- **What is planned fits.** -/
theorem plan_fits (nodes : List Node) (sectionId : Text) (policies : Table Policy) :
    Fits { nodes } (plan { nodes } sectionId policies) := by
  have helements := map_element_planFrom { nodes } sectionId policies [] (Element.list nodes)
  have htarget : ∀ s ∈ plan { nodes } sectionId policies,
      s.element ∈ Element.list nodes ∧ (target? { nodes } policies s.element).isSome = true := by
    intro s hs
    have hm : s.element ∈ (Element.list nodes).filter
        fun e => (target? { nodes } policies e).isSome :=
      helements ▸ List.mem_map_of_mem hs
    exact List.mem_filter.1 hm
  have hsome : ∀ s ∈ plan { nodes } sectionId policies,
      s.element.room? = some s.element.head.offset ∧ hasHook { nodes } s.element = false := by
    intro s hs
    obtain ⟨⟨component, pattern⟩, hx⟩ := Option.isSome_iff_exists.1 (htarget s hs).2
    obtain ⟨hc, hh, -⟩ := target?_eq_some hx
    exact ⟨room?_of_component? hc, hh⟩
  refine ⟨fun s hs => (hsome s hs).1, fun s hs => ?_, fun s hs => rfl, ?_⟩
  · have hh := (hsome s hs).2
    rw [hasHook, Bool.or_eq_false_iff] at hh
    exact hh.1
  · have hall := (Element.pairwise_head_list nodes).filter
      fun e => (target? { nodes } policies e).isSome
    rw [← helements, List.pairwise_map] at hall
    exact hall

/-- The elements of a plan stand in the file. -/
theorem standsIn_of_mem_plan {nodes : List Node} {sectionId : Text} {policies : Table Policy}
    {s : Suggestion} (hs : s ∈ plan { nodes } sectionId policies) :
    s.element.StandsIn {} (Node.textOf nodes) := by
  have hm : s.element ∈ (Element.list nodes).filter
      fun e => (target? { nodes } policies e).isSome :=
    map_element_planFrom { nodes } sectionId policies [] (Element.list nodes) ▸
      List.mem_map_of_mem hs
  exact Element.standsIn_of_mem_list (List.mem_filter.1 hm).1

/-! ## 3.  What a file becomes -/

/-- The text that the hooks of some suggestions put in at an offset. -/
def textAt (ss : List Suggestion) (o : Nat) : Text :=
  (ss.filter (·.element.head.offset = o)).flatMap fun s => attributeText s.id

theorem textAt_eq_nil {ss : List Suggestion} {o : Nat}
    (h : ∀ s ∈ ss, s.element.head.offset ≠ o) : textAt ss o = [] := by
  rw [textAt, List.filter_eq_nil_iff.2, List.flatMap_nil]
  intro s hs
  rw [decide_eq_true_eq]
  exact h s hs

/-- With heads that differ, each suggestion is alone at its place. -/
theorem filter_of_mem {ss : List Suggestion} {s : Suggestion}
    (h : ss.Pairwise fun a b => a.element.head.offset ≠ b.element.head.offset) (hs : s ∈ ss) :
    ss.filter (·.element.head.offset = s.element.head.offset) = [s] := by
  induction ss with
  | nil => cases hs
  | cons a ss ih =>
    have h := List.pairwise_cons.1 h
    rw [List.filter_cons]
    rcases List.mem_cons.1 hs with rfl | hs
    · have hnone : ss.filter (·.element.head.offset = s.element.head.offset) = [] := by
        refine List.filter_eq_nil_iff.2 fun b hb => ?_
        rw [decide_eq_true_eq]
        exact (h.1 b hb).symm
      rw [if_pos (decide_eq_true rfl), hnone]
    · have hne : ¬ a.element.head.offset = s.element.head.offset := h.1 s hs
      rw [if_neg (by rwa [decide_eq_true_eq]), ih h.2 hs]

/-- With heads that differ, each hook stands alone at its place. -/
theorem textAt_of_mem {ss : List Suggestion} {s : Suggestion}
    (h : ss.Pairwise fun a b => a.element.head.offset ≠ b.element.head.offset) (hs : s ∈ ss) :
    textAt ss s.element.head.offset = attributeText s.id := by
  rw [textAt, filter_of_mem h hs, List.flatMap_cons, List.flatMap_nil, List.append_nil]

theorem textAt_insertions (nodes : List Node) (ss : List Suggestion) (o : Nat) :
    Draft.textAt { nodes, insertions := ss.map Suggestion.insertion } o = textAt ss o := by
  rw [Draft.textAt, Draft.textsAt, textAt]
  induction ss with
  | nil => rfl
  | cons s ss ih =>
    rw [List.map_cons, List.filter_cons, List.filter_cons]
    by_cases ho : s.element.head.offset = o
    · have ho' : s.insertion.offset = o := congrArg Int.ofNat ho
      rw [if_pos (decide_eq_true ho'), if_pos (decide_eq_true ho), List.map_cons,
        List.flatten_cons, List.flatMap_cons, ih]
      rfl
    · have ho' : ¬ s.insertion.offset = o := fun h => ho (Int.ofNat.inj h)
      rw [if_neg (by rwa [decide_eq_true_eq]), if_neg (by rwa [decide_eq_true_eq]), ih]

/-- The text of a draft with the insertions of some suggestions. -/
theorem text_of_insertions {nodes : List Node} {ss : List Suggestion}
    (h : ∀ s ∈ ss, s.element.StandsIn {} (Node.textOf nodes)) :
    Draft.text { nodes, insertions := ss.map Suggestion.insertion } =
      .ok (Text.weave (textAt ss) 0 (Node.textOf nodes)) := by
  rw [Draft.text_eq_weave, funext (textAt_insertions nodes ss), Draft.source]
  intro i hi
  obtain ⟨s, hs, rfl⟩ := List.mem_map.1 hi
  exact ⟨s.element.head.offset, rfl, (h s hs).isBoundary⟩

/-- **What a file becomes that can be read**: in a trial run nothing, and otherwise the file with
the hooks of its plan woven in. -/
theorem transform_eq {policies : Table Policy} {sectionId path code : Text} {nodes : List Node}
    (h : Syntax.read path code = .ok nodes) (trial : Bool) :
    transform policies sectionId path trial code = .ok {
      code := if trial then code else
        Text.weave (textAt (plan { nodes } sectionId policies)) 0 code
      suggestions := plan { nodes } sectionId policies
      applied := if trial then 0 else (plan { nodes } sectionId policies).length
      isModified := !trial && !(plan { nodes } sectionId policies).isEmpty } := by
  have hcode : Node.textOf nodes = code := textOf_of_read h
  have hstands : ∀ s ∈ plan { nodes } sectionId policies,
      s.element.StandsIn {} (Node.textOf nodes) := fun s hs => standsIn_of_mem_plan hs
  have htext := text_of_insertions hstands
  have hall := addAll_eq (plan_fits nodes sectionId policies)
  unfold transform
  rw [h]
  dsimp only
  rw [hall]
  generalize plan { nodes } sectionId policies = ss at htext ⊢
  cases trial with
  | true => rfl
  | false =>
    cases ss with
    | nil =>
      have hnone : Text.weave (textAt []) 0 code = code := Text.weave_eq_self code fun o _ => rfl
      rw [hnone]
      rfl
    | cons s ss =>
      rw [Bool.false_or, List.isEmpty_cons, if_neg Bool.false_ne_true, List.nil_append,
        List.length_cons]
      simp only [htext, hcode]
      rfl

/-- Hooks that are woven in at heads that differ are put in.  They come in the order of the heads,
which is not always that of the elements. -/
theorem scattered_of_stands {ss : List Suggestion} {code : Text}
    (hstands : ∀ s ∈ ss, s.element.StandsIn {} code)
    (hapart : ss.Pairwise fun a b => a.element.head.offset ≠ b.element.head.offset) :
    Scattered (ss.map fun s => attributeText s.id) code (Text.weave (textAt ss) 0 code) := by
  let ps : List (Nat × Text) := ss.map fun s => (s.element.head.offset, attributeText s.id)
  have hps : ps.map Prod.snd = ss.map fun s => attributeText s.id := List.map_map ..
  rw [← hps]
  refine Text.scattered_weave ps (List.pairwise_map.2 hapart) (fun p hp => ?_) (fun p hp => ?_)
    fun o _ ho => ?_
  · obtain ⟨s, hs, rfl⟩ := List.mem_map.1 hp
    exact ⟨Nat.zero_le _, (hstands s hs).isBoundary⟩
  · obtain ⟨s, hs, rfl⟩ := List.mem_map.1 hp
    exact textAt_of_mem hapart hs
  · exact textAt_eq_nil fun s hs hso => ho (List.mem_map.2 ⟨_, List.mem_map_of_mem hs, hso⟩)

/-- A file that is given hooks can be read. -/
theorem read_of_transform {policies : Table Policy} {sectionId path code : Text} {trial : Bool}
    {t : Transform} (h : transform policies sectionId path trial code = .ok t) :
    ∃ nodes, Syntax.read path code = .ok nodes := by
  cases hread : Syntax.read path code with
  | ok nodes => exact ⟨nodes, rfl⟩
  | error e =>
    unfold transform at h
    rw [hread] at h
    cases h

/-- **The new text is the old one with the hooks put in.** -/
theorem transform_scattered {policies : Table Policy} {sectionId path code : Text} {trial : Bool}
    {t : Transform} (h : transform policies sectionId path trial code = .ok t)
    (hm : t.isModified = true) :
    trial = false ∧ Scattered (t.suggestions.map fun s => attributeText s.id) code t.code := by
  obtain ⟨nodes, hread⟩ := read_of_transform h
  rw [transform_eq hread] at h
  obtain rfl := Except.ok.inj h
  cases trial with
  | true => cases hm
  | false =>
    exact ⟨rfl, scattered_of_stands (fun s hs => textOf_of_read hread ▸ standsIn_of_mem_plan hs)
      (plan_fits nodes sectionId policies).apart⟩

/-- The path of a file matters only by its ending. -/
theorem transform_of_endsWith {policies : Table Policy} {sectionId path path' code : Text}
    {trial : Bool} {t : Transform} (hends : Text.endsWith path ".ts" = Text.endsWith path' ".ts")
    (h : transform policies sectionId path trial code = .ok t) :
    transform policies sectionId path' trial code = .ok t := by
  obtain ⟨nodes, hread⟩ := read_of_transform h
  have hread' : Syntax.read path' code = .ok nodes := by
    unfold Syntax.read Automaton.ofPath at hread ⊢
    rw [← hends]
    cases ht : Tree.read? (if Text.endsWith path ".ts" = true then .plain else .markup) code with
    | none =>
      rw [ht] at hread
      cases hread
    | some root =>
      rw [ht] at hread
      dsimp only at hread ⊢
      split at hread
      · rename_i hcost
        rw [if_pos hcost]
        exact hread
      · cases hread
  rw [transform_eq hread] at h
  rw [transform_eq hread', h]

/-! ## 4.  Exactness -/

/-- What a run makes of a file that is read as some nodes. -/
structure Exact (policies : Table Policy) (sectionId code : Text) (nodes : List Node)
    (t : Transform) : Prop where
  /-- The suggestions are those that a trial run plans. -/
  planned : t.suggestions = plan { nodes } sectionId policies
  /-- Each suggestion is applied. -/
  complete : t.applied = t.suggestions.length
  /-- The file is changed if there is anything to apply. -/
  changed : t.isModified = true ↔ t.suggestions ≠ []
  /-- The opening tag of each suggestion stands in the file. -/
  stands : ∀ s ∈ t.suggestions, s.element.StandsIn {} code
  /-- No two hooks have the same place. -/
  apart : t.suggestions.Pairwise fun a b => a.element.head.offset ≠ b.element.head.offset
  /-- At each place only the hook is put in that belongs there, and no byte is lost. -/
  bytes : Text.bytes t.code = splice (fun o => Text.bytes (textAt t.suggestions o)) 0
    (Text.bytes code)
  /-- What is put in at the place of a suggestion is its hook. -/
  hooks : ∀ s ∈ t.suggestions,
    textAt t.suggestions s.element.head.offset = attributeText s.id
  /-- Elsewhere nothing is put in. -/
  rest : ∀ o, (∀ s ∈ t.suggestions, s.element.head.offset ≠ o) → textAt t.suggestions o = []

/-- **Giving hooks to a file is exact and complete.**  A trial run tells the same suggestions and
leaves the file alone; and whenever anything is planned, applying the plan applies something. -/
theorem transform_exact {path code : Text} {nodes : List Node}
    (h : Syntax.read path code = .ok nodes) (policies : Table Policy) (sectionId : Text) :
    transform policies sectionId path true code = .ok {
        code, suggestions := plan { nodes } sectionId policies, applied := 0
        isModified := false } ∧
      (∃ t, transform policies sectionId path false code = .ok t ∧
        Exact policies sectionId code nodes t) ∧
      (plan { nodes } sectionId policies ≠ [] →
        (addAll { nodes } (plan { nodes } sectionId policies)).2 ≠ 0) := by
  have hfits := plan_fits nodes sectionId policies
  have hstands : ∀ s ∈ plan { nodes } sectionId policies, s.element.StandsIn {} code :=
    fun s hs => textOf_of_read h ▸ standsIn_of_mem_plan hs
  refine ⟨transform_eq h true, ⟨_, transform_eq h false, ?_⟩, fun hne => ?_⟩
  · refine ⟨rfl, rfl, ?_, hstands, hfits.apart, ?_, fun s hs => textAt_of_mem hfits.apart hs,
      fun o ho => textAt_eq_nil ho⟩
    · rw [Bool.not_false, Bool.true_and, Bool.not_eq_true', ← Bool.not_eq_true, List.isEmpty_iff]
    · refine Text.bytes_weave fun o ho _ => Classical.byContradiction fun hb => ho ?_
      rw [Nat.zero_add]
      exact textAt_eq_nil fun s hs hso => hb (hso ▸ (hstands s hs).isBoundary)
  · rw [addAll_eq hfits]
    exact fun h0 => hne (List.length_eq_zero_iff.1 h0)

/-- The policies of the case that follows. -/
def linkPolicies : Table Policy :=
  Policy.tableOf [{ name := "A", pattern := some (sectionMark ++ "-a".toList) }]

/-- The case of a file with one element. -/
theorem transform_exact_link : ∃ nodes, Syntax.read "a.tsx" "<A/>" = .ok nodes ∧
    transform linkPolicies "s" "a.tsx" true "<A/>" = .ok {
        code := "<A/>", suggestions := plan { nodes } "s" linkPolicies, applied := 0
        isModified := false } ∧
      (∃ t, transform linkPolicies "s" "a.tsx" false "<A/>" = .ok t ∧
        Exact linkPolicies "s" "<A/>" nodes t) ∧
      (plan { nodes } "s" linkPolicies ≠ [] →
        (addAll { nodes } (plan { nodes } "s" linkPolicies)).2 ≠ 0) := by
  have hread : (Syntax.read "a.tsx" "<A/>").isOk = true := by decide +kernel
  generalize hr : Syntax.read "a.tsx" "<A/>" = r at hread
  match r, hread with
  | .ok nodes, _ => exact ⟨nodes, rfl, transform_exact hr linkPolicies "s"⟩

example : (transform linkPolicies "s" "a.tsx" false "<A/>").toOption.map Transform.code =
    some "<A data-testid=\"s-a\"/>".toList := by
  decide +kernel

end UiHarness.Hook
