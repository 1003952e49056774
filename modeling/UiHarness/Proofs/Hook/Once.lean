import UiHarness.Proofs.Hook.Insertion

/-!
# Hooks given on request

Hooks need not be planned.  They can be asked for one by one, for any elements of a file, in any
order, with any identifiers and as often as one likes.  Whether an element has a hook is then looked
up by the place at which its attributes are put in, among all texts that are to be put in there, and
not by the element.  That no element gets two hooks, and that no element is taken to have the hook
of another one, is so because no two elements of a file share that place.

* `Request`, `run`, `granted`: requests, the draft after them, and those that were granted.
* `hasHook_apply`: what one request does to the hooks of all elements.
* `Passage`, `passage`: a run, request by request, and `Passage.hasHook_iff`: what it does to them.
* `OnceEach`, `once_each`: the account of a sequence of requests.
-/

namespace UiHarness.Hook

open Syntax

/-- A request for a hook on an element of a file. -/
structure Request (nodes : List Node) where
  element : Element
  /-- The identifier. -/
  id : Text
  mem : element ∈ Element.list nodes

variable {nodes : List Node}

/-! ## 1.  One request -/

namespace Request

/-- Whether a draft is given the hook. -/
def isGranted (d : Draft) (r : Request nodes) : Bool := (add? d r.element r.id).isSome

/-- The draft after a request. -/
def apply (d : Draft) (r : Request nodes) : Draft := (add? d r.element r.id).getD d

/-- The insertion that is asked for. -/
def insertion (r : Request nodes) : Insertion := ⟨r.element.head.offset, attributeText r.id⟩

/-- A hook is given to an element with a name and without a hook. -/
theorem isGranted_iff {d : Draft} {r : Request nodes} :
    r.isGranted d = true ↔ hasHook d r.element = false ∧ r.element.name.isSome = true := by
  rw [isGranted, add?]
  cases hasHook d r.element with
  | true => simp
  | false => cases hname : r.element.name <;> simp [Element.room?, hname]

/-- A request that is not granted changes nothing. -/
theorem apply_of_refused {d : Draft} {r : Request nodes} (h : r.isGranted d = false) :
    r.apply d = d := by
  rw [apply, Option.isNone_iff_eq_none.1 (Option.isSome_eq_false_iff.1 h), Option.getD_none]

/-- A request that is granted puts in its hook, behind the others. -/
theorem apply_of_granted {d : Draft} {r : Request nodes} (h : r.isGranted d = true) :
    r.apply d = d.insert r.element.head.offset (attributeText r.id) := by
  obtain ⟨hhook, hname⟩ := isGranted_iff.1 h
  rw [apply, add?_eq_some hhook (Element.room?_of_name hname), Option.getD_some]

end Request

/-- Whatever the identifier is, what is put in is a hook. -/
theorem isHook_attributeText (id : Text) : isHook (attributeText id) = true := rfl

/-- What is put in at another place is no hook of an element. -/
theorem hasHook_insert_of_ne {d : Draft} {e : Element} {o : Int} {t : Text}
    (h : o ≠ e.head.offset) : hasHook (d.insert o t) e = hasHook d e := by
  unfold hasHook
  cases hname : e.name with
  | none => rw [Element.room?, hname, Option.map_none]
  | some name =>
    rw [Element.room?, hname, Option.map_some]
    simp only [textsAt_insert_of_ne h]

/-- What is put in at the place of an element is its hook. -/
theorem hasHook_insert_self {d : Draft} {e : Element} (hname : e.name.isSome = true) (id : Text) :
    hasHook (d.insert e.head.offset (attributeText id)) e = true := by
  have hmem : attributeText id ∈
      (d.insert e.head.offset (attributeText id)).textsAt e.head.offset :=
    List.mem_map.2 ⟨⟨e.head.offset, attributeText id⟩, List.mem_filter.2
      ⟨List.mem_append_right _ (List.mem_singleton.2 rfl), decide_eq_true rfl⟩, rfl⟩
  rw [hasHook, Element.room?_of_name hname, Bool.or_eq_true]
  exact .inr (List.any_eq_true.2 ⟨_, hmem, isHook_attributeText id⟩)

/-- **After a request, the elements with hooks are those from before, and its own one if it was
granted.** -/
theorem hasHook_apply (d : Draft) (r : Request nodes) {e : Element} (he : e ∈ Element.list nodes) :
    hasHook (r.apply d) e = true ↔
      hasHook d e = true ∨ r.isGranted d = true ∧ r.element = e := by
  cases hgranted : r.isGranted d with
  | false => simp [Request.apply_of_refused hgranted]
  | true =>
    rw [Request.apply_of_granted hgranted]
    by_cases heq : r.element = e
    · have hself := hasHook_insert_self (d := d) (Request.isGranted_iff.1 hgranted).2 r.id
      rw [heq] at hself ⊢
      simp [hself]
    · -- elements at one place would be one element
      have hne : (r.element.head.offset : Int) ≠ e.head.offset := fun h =>
        heq (Element.eq_of_head r.mem he (Int.ofNat.inj h))
      simp [hasHook_insert_of_ne hne, heq]

/-! ## 2.  Any number of requests -/

/-- The draft after some requests. -/
def run (d : Draft) (rs : List (Request nodes)) : Draft := rs.foldl Request.apply d

/-- Those of some requests that were granted, each in the draft after those before it. -/
def granted (d : Draft) : List (Request nodes) → List (Request nodes)
  | [] => []
  | r :: rs =>
    if r.isGranted d then r :: granted (r.apply d) rs else granted (r.apply d) rs

theorem run_cons (d : Draft) (r : Request nodes) (rs : List (Request nodes)) :
    run d (r :: rs) = run (r.apply d) rs := rfl

theorem run_concat (d : Draft) (rs : List (Request nodes)) (r : Request nodes) :
    run d (rs ++ [r]) = r.apply (run d rs) := by
  rw [run, List.foldl_append, List.foldl_cons, List.foldl_nil, run]

/-- A run through some requests: where it begins, the requests, those that are granted, and where it
ends. -/
inductive Passage : Draft → List (Request nodes) → List (Request nodes) → Draft → Prop
  | done (d : Draft) : Passage d [] [] d
  | refused {d d' : Draft} {r : Request nodes} {rs gs : List (Request nodes)} :
    r.isGranted d = false → Passage d rs gs d' → Passage d (r :: rs) gs d'
  | granted {d d' : Draft} {r : Request nodes} {rs gs : List (Request nodes)} :
    r.isGranted d = true → Passage (r.apply d) rs gs d' → Passage d (r :: rs) (r :: gs) d'

/-- Every run is a passage. -/
theorem passage (d : Draft) (rs : List (Request nodes)) :
    Passage d rs (granted d rs) (run d rs) := by
  induction rs generalizing d with
  | nil => exact .done d
  | cons r rs ih =>
    rw [run_cons, granted]
    cases h : r.isGranted d with
    | false =>
      rw [Request.apply_of_refused h, if_neg Bool.false_ne_true]
      exact .refused h (ih d)
    | true => exact .granted h (ih _)

namespace Passage

variable {d d' : Draft} {rs gs : List (Request nodes)}

/-- The requests that are granted are among the requests. -/
theorem sublist (h : Passage d rs gs d') : gs.Sublist rs := by
  induction h with
  | done d => exact .slnil
  | refused _ _ ih => exact ih.cons _
  | granted _ _ ih => exact ih.cons_cons _

/-- **At the end the elements with hooks are those from before, and those of the requests that were
granted.** -/
theorem hasHook_iff (h : Passage d rs gs d') {e : Element} (he : e ∈ Element.list nodes) :
    hasHook d' e = true ↔ hasHook d e = true ∨ ∃ r ∈ gs, r.element = e := by
  induction h with
  | done d => simp
  | refused _ _ ih => exact ih
  | @granted d d' r rs gs hgranted _ ih =>
    rw [ih, hasHook_apply d r he]
    simp [hgranted, or_assoc]

/-- A request is granted only for an element that had no hook to begin with. -/
theorem hasHook_eq_false (h : Passage d rs gs d') {r : Request nodes} (hr : r ∈ gs) :
    hasHook d r.element = false := by
  induction h with
  | done d => cases hr
  | refused _ _ ih => exact ih hr
  | @granted d d' r₁ rs gs hgranted _ ih =>
    rcases List.mem_cons.1 hr with rfl | hr
    · exact (Request.isGranted_iff.1 hgranted).1
    · -- hooks stay, so one that was there to begin with would be there still
      have hlater := ih hr
      rw [← Bool.not_eq_true] at hlater ⊢
      exact fun hhook => hlater ((hasHook_apply d r₁ r.mem).2 (.inl hhook))

/-- No two requests are granted for one element. -/
theorem nodup (h : Passage d rs gs d') : (gs.map Request.element).Nodup := by
  induction h with
  | done d => exact List.nodup_nil
  | refused _ _ ih => exact ih
  | @granted d d' r rs gs hgranted hrest ih =>
    rw [List.map_cons, List.nodup_cons]
    refine ⟨fun hmem => ?_, ih⟩
    obtain ⟨r', hr', heq⟩ := List.mem_map.1 hmem
    have hnone := hrest.hasHook_eq_false hr'
    rw [heq, (hasHook_apply d r r.mem).2 (.inr ⟨hgranted, rfl⟩)] at hnone
    cases hnone

/-- The insertions that are made are those of the requests that were granted. -/
theorem insertions_eq (h : Passage d rs gs d') :
    d'.insertions = d.insertions ++ gs.map Request.insertion := by
  induction h with
  | done d => exact (List.append_nil _).symm
  | refused _ _ ih => exact ih
  | granted hgranted _ ih =>
    rw [ih, Request.apply_of_granted hgranted, Draft.insertions_insert, List.append_assoc,
      List.singleton_append, List.map_cons]
    rfl

/-- The file stays as it is. -/
theorem nodes_eq (h : Passage d rs gs d') : d'.nodes = d.nodes := by
  induction h with
  | done d => rfl
  | refused _ _ ih => exact ih
  | granted hgranted _ ih => rw [ih, Request.apply_of_granted hgranted, Draft.nodes_insert]

end Passage

/-! ## 3.  The account -/

/-- What is known of a request that comes after others. -/
structure Answered (before : List (Request nodes)) (r : Request nodes) : Prop where
  /-- It is granted exactly if the element has a name, no hook in the file, and was not given one
  by a request before. -/
  granted_iff : r.isGranted (run { nodes } before) = true ↔
    r.element.name.isSome = true ∧ r.element.hasAttribute attributeName = false ∧
      ∀ r' ∈ granted { nodes } before, r'.element ≠ r.element
  /-- If it is not granted, nothing changes. -/
  refused : r.isGranted (run { nodes } before) = false →
    run { nodes } (before ++ [r]) = run { nodes } before
  /-- If it is granted, there is one more insertion. -/
  added : r.isGranted (run { nodes } before) = true →
    (run { nodes } (before ++ [r])).insertions =
      (run { nodes } before).insertions ++ [r.insertion]
  /-- Afterwards the element has a hook, if it has a name. -/
  own : r.element.name.isSome = true → hasHook (run { nodes } (before ++ [r])) r.element = true
  /-- All other elements of the file have a hook as before, or have none as before. -/
  others : ∀ e ∈ Element.list nodes, e ≠ r.element →
    hasHook (run { nodes } (before ++ [r])) e = hasHook (run { nodes } before) e

/-- What is known of a sequence of requests for hooks in a file. -/
structure OnceEach (rs : List (Request nodes)) : Prop where
  /-- Each request has its answer. -/
  answered : ∀ before r after, rs = before ++ r :: after → Answered before r
  /-- No element is given two hooks. -/
  once : ((granted { nodes } rs).map Request.element).Nodup
  /-- The first request for an element is granted, if the element can have a hook at all. -/
  first : ∀ before r after, rs = before ++ r :: after → (∀ r' ∈ before, r'.element ≠ r.element) →
    (r.isGranted (run { nodes } before) = true ↔
      r.element.name.isSome = true ∧ r.element.hasAttribute attributeName = false)
  /-- The insertions are those of the requests that were granted, in their order. -/
  insertions : (run { nodes } rs).insertions = (granted { nodes } rs).map Request.insertion
  /-- The file stays as it is. -/
  file : (run { nodes } rs).nodes = nodes

/-- A request after others has its answer. -/
theorem answered (before : List (Request nodes)) (r : Request nodes) : Answered before r where
  granted_iff := by
    have hhook := (passage { nodes } before).hasHook_iff r.mem
    rw [hasHook_bare] at hhook
    rw [Request.isGranted_iff, ← Bool.not_eq_true, hhook, not_or, Bool.not_eq_true, and_comm]
    simp only [not_exists, not_and, ne_eq]
  refused h := by rw [run_concat, Request.apply_of_refused h]
  added h := by
    rw [run_concat, Request.apply_of_granted h, Draft.insertions_insert]
    rfl
  own hname := by
    rw [run_concat, hasHook_apply _ r r.mem]
    cases hhook : hasHook (run { nodes } before) r.element with
    | true => exact .inl rfl
    | false => exact .inr ⟨Request.isGranted_iff.2 ⟨hhook, hname⟩, rfl⟩
  others e he hne := by
    rw [run_concat, Bool.eq_iff_iff, hasHook_apply _ r he]
    exact or_iff_left fun h => hne h.2.symm

/-- **No element gets two hooks**, whatever is asked for. -/
theorem once_each (rs : List (Request nodes)) : OnceEach rs where
  answered before r _ _ := answered before r
  once := (passage { nodes } rs).nodup
  first before r _ _ hfirst := by
    have hnone : ∀ r' ∈ granted { nodes } before, r'.element ≠ r.element :=
      fun r' hr' => hfirst r' ((passage { nodes } before).sublist.subset hr')
    rw [(answered before r).granted_iff, and_iff_left hnone]
  insertions := (passage { nodes } rs).insertions_eq
  file := (passage { nodes } rs).nodes_eq

end UiHarness.Hook
