import UiHarness.Proofs.Syntax.Stack

/-!
# What the tree of a file has

A property that is kept wherever trees are made is one of all trees on the stack (`Stack.All`).  What
is left are the steps of reading itself: a token is taken, a version is mended, versions are
compared, and the best tree of the whole file is kept.

* `Reader.All`: readings in which all trees have a property, with a lemma for each step.
* `Tree.of_read?`: the tree of a file has the property.
-/

namespace UiHarness.Syntax

variable {a : Automaton} {P : Tree → Prop}

namespace Reader

/-! ## 1.  Readings -/

/-- Readings in which all trees have a property. -/
structure All (P : Tree → Prop) (r : Reader) : Prop where
  stack : r.stack.All P
  finished : ∀ t ∈ r.finished, P t

theorem of_rootOf (hP : Keeps a P) {trees : List Tree} (h : ∀ t ∈ trees, P t) {root : Tree}
    (hroot : rootOf trees = some root) : P root := by
  obtain ⟨hfront, hbehind⟩ := mem_cutTrailing h
  obtain ⟨t, ht, rfl⟩ := Option.map_eq_some_iff.1 hroot
  have hmem : t ∈ (Tree.cutTrailing trees).1 := List.mem_of_getLast? ht
  refine hP.node _ _ _ fun u hu => ?_
  rcases List.mem_append.1 hu with hu | hu
  · rcases List.mem_append.1 hu with hu | hu
    · exact hfront u (List.dropLast_subset _ hu)
    · exact hP.part t (hfront t hmem) u hu
  · exact hbehind u hu

theorem All.keepBetter {r : Reader} (h : r.All P) {root : Tree} (hroot : P root) :
    (r.keepBetter root).All P := by
  refine ⟨h.stack, fun t ht => ?_⟩
  obtain rfl := Option.some.inj ht
  split
  · exact hroot
  · rename_i u hu
    split
    · exact hroot
    · exact h.finished u hu

theorem All.accept (hP : Keeps a P) {r : Reader} (h : r.All P) (v : Nat) {fileEnd : Tree}
    (hend : P fileEnd) : (r.accept v fileEnd).All P := by
  have hpushed : (r.stack.push v (some fileEnd) Stack.startState []).All P :=
    h.stack.pushTree v hend _ _
  obtain ⟨hstack, hslices⟩ := hpushed.popAll v
  have hbest : ((((r.stack.push v (some fileEnd) Stack.startState []).popAll v).2.filterMap
      (rootOf ·.trees)).foldl Reader.keepBetter r).All P := by
    refine List.foldlRecOn _ _ h fun r' hr' root hroot => hr'.keepBetter ?_
    obtain ⟨slice, hslice, hroot⟩ := List.mem_filterMap.1 hroot
    exact of_rootOf hP (hslices slice hslice) hroot
  unfold Reader.accept
  refine ⟨?_, hbest.finished⟩
  dsimp only
  split
  · exact (hstack.drop _).halt v
  · exact hstack.halt v

theorem all_outdone {v : Nat} {standing : Stack.Standing} {versions : List Nat} {s : Stack}
    (h : s.All P) : (outdone v standing versions s).1.All P := by
  induction versions generalizing s with
  | nil => exact h
  | cons w ws ih =>
    have hsettled := h.settle w
    unfold outdone
    dsimp only
    split
    · exact ih h
    · split
      · exact hsettled
      · split
        · exact hsettled
        · exact ih hsettled
      all_goals exact ih hsettled

theorem All.hasBetter {r : Reader} (h : r.All P) (v cost : Nat) : (r.hasBetter v cost).1.All P := by
  unfold Reader.hasBetter
  split
  · exact h
  · exact ⟨all_outdone (h.stack.settle v), h.finished⟩

theorem All.goBack (hP : Keeps a P) {v : Nat} {next : Symbol} {count : Nat} {skipped : Bool}
    {cost : Nat} {landmarks : List Landmark} {r : Reader} (h : r.All P) :
    (Reader.goBack a v next count skipped cost landmarks r).1.All P := by
  induction landmarks generalizing r with
  | nil => exact h
  | cons l ls ih =>
    unfold Reader.goBack
    dsimp only
    split
    · exact ih h
    · have hbetter := h.hasBetter v
        (cost + l.depth * Cost.tree + Cost.text ((r.stack.top v).place.sub l.place))
      split
      · rename_i hr
        rw [hr] at hbetter
        exact hbetter
      · rename_i r' hr
        rw [hr] at hbetter
        split
        · exact ih hbetter
        · have hback := hbetter.stack.recoverTo hP v (if skipped then l.depth + 1 else l.depth) l.state
          split
          · rename_i hs
            rw [hs] at hback
            exact ⟨hback, hbetter.finished⟩
          · rename_i hs
            rw [hs] at hback
            exact ih ⟨hback, hbetter.finished⟩

theorem all_skip (hP : Keeps a P) {s : Stack} (h : s.All P) (v : Nat) {next : Tree} (hnext : P next)
    (rest : Text) (skipped : Bool) : (skip a s v next rest skipped).All P := by
  have hpart : ∀ next' : Tree, P next' → P (Tree.node Symbol.skipped 0 [next']) := fun next' h =>
    hP.node _ _ _ fun t ht => List.mem_singleton.1 ht ▸ h
  unfold skip
  extract_lets next' part
  -- the token may be one that stands between others
  have hnext' : P next' := by
    simp only [next']
    split
    · exact hP.between true next hnext
    · exact hnext
  have hpushed : ∀ {s : Stack}, s.All P → (s.push v (some part) Stack.mistakeState rest).All P :=
    fun hs => hs.pushTree v (hpart next' hnext') _ _
  split
  · have hparted := h.pop v 1
    split
    · rename_i slice _ hs
      rw [hs] at hparted
      refine ((hparted.stack.keep _).replace _ _).pushTree v (hP.node _ _ _ fun t ht => ?_) _ _
      rcases List.mem_append.1 ht with ht | ht
      · exact hparted.slices slice (List.mem_cons_self ..) t ht
      · exact List.mem_singleton.1 ht ▸ hpart next' hnext'
    · rename_i hs
      rw [hs] at hparted
      exact hpushed hparted.stack
  · exact hpushed h

theorem All.recover (hP : Keeps a P) {r : Reader} (h : r.All P) (v : Nat) {next : Tree}
    (hnext : P next) (rest : Text) : (r.recover a v next rest).All P := by
  unfold Reader.recover
  extract_lets count stack skipped cost landmarks
  have hback : (Reader.goBack a v next.symbol count skipped cost landmarks
      { r with stack }).1.All P := All.goBack hP ⟨h.stack.settle v, h.finished⟩
  split
  rename_i r' found hr
  rw [hr] at hback
  extract_lets r''
  have hidle : r''.All P := ⟨hback.stack.dropIdle count, hback.finished⟩
  split
  -- at the end of the file, the version ends behind a mistake without parts
  · have hbroken : P (Tree.node Symbol.error 0 []) :=
      hP.node _ _ _ fun _ h => absurd h List.not_mem_nil
    have hpushed : (r''.stack.push v (some (Tree.node Symbol.error 0 [])) Stack.startState rest).All P :=
      hidle.stack.pushTree v hbroken _ _
    exact All.accept hP (r := { r'' with stack := _ }) ⟨hpushed, hidle.finished⟩ v hnext
  · split
    · exact ⟨hidle.stack.halt v, hidle.finished⟩
    · have hbetter := hidle.hasBetter v (cost + Cost.tree + Cost.text next.total)
      split
      · rename_i hr
        rw [hr] at hbetter
        exact ⟨hbetter.stack.halt v, hbetter.finished⟩
      · rename_i hr
        rw [hr] at hbetter
        exact ⟨all_skip hP hbetter.stack v hnext rest skipped, hbetter.finished⟩

theorem All.mend (hP : Keeps a P) {r : Reader} (h : r.All P) (v : Nat) {next : Tree}
    (hnext : P next) (rest : Text) : (r.mend a v next rest).All P := by
  have hclosed := h.stack.closeAll hP v none
  unfold Reader.mend
  extract_lets first
  split
  rename_i s _ hs
  rw [hs] at hclosed
  extract_lets added s' s''
  have hmerged : s''.All P := (hclosed.breakOff hP).mergeAll
  exact All.recover hP (r := { r with stack := s''.noteLandmarks v })
    ⟨hmerged.noteLandmarks v, h.finished⟩ v hnext rest

/-! ## 2.  Going on by a token -/

theorem All.perform (hP : Keeps a P) {v : Nat} {next : Tree} (hnext : P next) {rest : Text}
    {actions : List Action} {p : Progress} {r : Reader} (h : r.All P) :
    (Reader.perform a v next rest actions p r).1.All P := by
  induction actions generalizing p r with
  | nil => exact h
  | cons action more ih =>
    have hpushed : ∀ (between : Bool) (state : Nat),
        (r.stack.push v (some (next.setBetween between)) state rest).All P := fun between state =>
      h.stack.pushTree v (hP.between between next hnext) state rest
    cases action with
    | shift state repeated =>
      cases repeated with
      | true => exact ih h
      | false => exact ⟨hpushed false state, h.finished⟩
    | skip => exact ⟨hpushed true _, h.finished⟩
    | reduce n => exact ih ⟨h.stack.reduce hP v _, h.finished⟩
    | accept => exact h.accept hP v hnext
    | recover => exact h.recover hP v hnext rest

theorem All.take (hP : Keeps a P) {v : Nat} {rest : Text} {n : Nat} {next : Tree} (hnext : P next)
    {r : Reader} (h : r.All P) : (Reader.take a v rest n next r).All P := by
  induction n generalizing next r with
  | zero => exact ⟨h.stack.halt v, h.finished⟩
  | succ n ih =>
    have hdone : (Reader.perform a v next rest (a.actions (r.stack.top v).state next.symbol)
        .stuck r).1.All P := h.perform hP hnext
    unfold Reader.take
    dsimp only
    split
    · rename_i hr
      rw [hr] at hdone
      exact hdone
    · rename_i hr
      rw [hr] at hdone
      exact ih hnext ⟨hdone.stack.replace _ _, hdone.finished⟩
    · rename_i hr
      rw [hr] at hdone
      exact ⟨hdone.stack.halt v, hdone.finished⟩
    · rename_i hr
      rw [hr] at hdone
      split
      · rename_i hword
        exact ih (hP.word next hnext (Bool.and_eq_true_iff.1 hword).1) hdone
      · split
        · exact hdone.recover hP v hnext rest
        · exact ⟨hdone.stack.pause v hnext rest, hdone.finished⟩

theorem All.advance (hP : Keeps a P) {r : Reader} (h : r.All P) (v : Nat) : (r.advance a v).All P :=
  h.take hP (hP.token r.stack v)

/-! ## 3.  Comparing the versions -/

theorem all_compareWith {standing : Stack.Standing} {n i j : Nat} {s : Stack} (h : s.All P) :
    (compareWith standing n i j s).1.All P := by
  induction n generalizing i j s with
  | zero => exact h
  | succ n ih =>
    have hsettled := h.settle j
    unfold compareWith
    dsimp only
    split
    · exact h
    · split
      · exact hsettled.drop i
      · split
        · exact hsettled.merge j i
        · exact ih hsettled
      · split
        · exact hsettled.merge j i
        · exact ih hsettled
      · split
        · exact hsettled.merge j i
        · exact ih (hsettled.swap i j)
      · exact ih (hsettled.drop j)

theorem all_compareAll {n i : Nat} {least : Option Nat} {s : Stack} (h : s.All P) :
    (compareAll n i least s).1.All P := by
  induction n generalizing i least s with
  | zero => exact h
  | succ n ih =>
    unfold compareAll
    split
    · exact ih (h.drop i)
    · exact ih (all_compareWith (h.settle i))

theorem All.mendFirst (hP : Keeps a P) {n i : Nat} {running : Bool} {least : Option Nat} {r : Reader}
    (h : r.All P) : (Reader.mendFirst a n i running least r).1.All P := by
  induction n generalizing i running least r with
  | zero => exact h
  | succ n ih =>
    unfold Reader.mendFirst
    split
    · rename_i next rest hstatus
      split
      · have hactive : (r.stack.modify i ({ · with status := .active })).All P :=
          h.stack.modify (fun _ _ _ _ hstatus => by cases hstatus) i
        have hnext : P next := h.stack.version i next rest hstatus
        exact ih (All.mend hP (r := { r with stack := _ }) ⟨hactive, h.finished⟩ i hnext rest)
      · exact ih ⟨h.stack.drop i, h.finished⟩
    · exact ih h

theorem All.condense (hP : Keeps a P) {r : Reader} (h : r.All P) : (r.condense a).1.All P :=
  All.mendFirst hP ⟨(all_compareAll h.stack).keep Stack.maxVersions, h.finished⟩

/-! ## 4.  Reading a file -/

theorem All.follow (hP : Keeps a P) {v n farthest : Nat} {r : Reader} (h : r.All P) :
    (Reader.follow a v n farthest r).1.All P := by
  induction n generalizing farthest r with
  | zero => exact h
  | succ n ih =>
    have hadvanced := h.advance hP v
    unfold Reader.follow
    dsimp only
    split
    · split
      · exact hadvanced
      · exact ih hadvanced
    · exact h

theorem All.followAll (hP : Keeps a P) {steps n v farthest : Nat} {r : Reader} (h : r.All P) :
    (Reader.followAll a steps n v farthest r).1.All P := by
  induction n generalizing v farthest r with
  | zero => exact h
  | succ n ih =>
    unfold Reader.followAll
    split
    · exact ih (h.follow hP)
    · exact h

theorem of_run (hP : Keeps a P) {steps n farthest : Nat} {r : Reader} (h : r.All P) {root : Tree}
    (hroot : run a steps n farthest r = some root) : P root := by
  induction n generalizing farthest r with
  | zero => exact h.finished root hroot
  | succ n ih =>
    unfold run at hroot
    split at hroot
    · exact h.finished root hroot
    · have hcondensed : (Reader.condense a (followAll a steps steps 0 farthest r).1).1.All P :=
        (h.followAll hP).condense hP
      have hnext : ∀ (isBest : Bool) (farthest' : Nat),
          (if isBest then (Reader.condense a (followAll a steps steps 0 farthest r).1).1.finished
            else run a steps n farthest'
              (Reader.condense a (followAll a steps steps 0 farthest r).1).1) = some root →
          P root := by
        intro isBest farthest' hroot
        split at hroot
        · exact hcondensed.finished root hroot
        · exact ih hcondensed hroot
      exact hnext _ _ hroot

end Reader

/-- **The tree of a file** has each property that is kept. -/
theorem Tree.of_read? (hP : Reader.Keeps a P) {t : Text} {root : Tree}
    (h : Tree.read? a t = some root) : P root := by
  refine Reader.of_run hP (r := ⟨Stack.start t, none, 0⟩) ⟨⟨fun n hn => ?_, fun v hv => ?_⟩, ?_⟩ h
  · obtain rfl := List.mem_singleton.1 (Array.mem_toList_iff.2 hn)
    exact fun _ h => absurd h List.not_mem_nil
  · obtain rfl := List.mem_singleton.1 hv
    exact fun _ _ hstatus => by cases hstatus
  · exact fun _ h => by cases h

end UiHarness.Syntax
