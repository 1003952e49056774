import Mathlib.Data.List.SplitBy
import UiHarness.Syntax.Reading

/-!
# What all trees on a stack have

Several readings of a file are followed at once, joined, taken back, and mended.  But trees are made
in few ways only: a tree is a token that was read, one that is missing, a node of other trees, or a
tree that was there, marked in some way.  So a property that these ways keep is one of all trees on
the stack, whatever is done with it.

* `Reader.Keeps`: a property of trees that is kept.
* `Stack.All`: a stack on which all trees have a property, with a lemma for each function on stacks.
-/

namespace UiHarness.Syntax

/-- An entry of a list in which one place was changed. -/
theorem mem_modify {α : Type} {f : α → α} {l : List α} {i : Nat} {x : α} (h : x ∈ l.modify i f) :
    x ∈ l ∨ ∃ y ∈ l, x = f y := by
  obtain ⟨j, hj⟩ := List.mem_iff_getElem?.1 h
  rw [List.getElem?_modify] at hj
  obtain ⟨y, hy, rfl⟩ := Option.map_eq_some_iff.1 hj
  have hmem := List.mem_of_getElem? hy
  split
  · exact .inr ⟨y, hmem, rfl⟩
  · exact .inl hmem

/-- A property of trees that is kept in all that is done with trees. -/
structure Reader.Keeps (a : Automaton) (P : Tree → Prop) : Prop where
  token : ∀ s v, P (Reader.next a s v).1
  absent : ∀ symbol, P (Tree.absent symbol)
  node : ∀ symbol names parts, (∀ t ∈ parts, P t) → P (Tree.node symbol names parts)
  part : ∀ t, P t → ∀ u ∈ t.parts, P u
  between : ∀ b t, P t → P (t.setBetween b)
  word : ∀ t, P t → Symbol.isWord t.symbol = true → P (t.setSymbol Symbol.name)
  raise : ∀ rank t, P t → P (t.raise rank)

variable {a : Automaton} {P : Tree → Prop}

theorem mem_cutTrailing {ts : List Tree} (h : ∀ t ∈ ts, P t) :
    (∀ t ∈ (Tree.cutTrailing ts).1, P t) ∧ ∀ t ∈ (Tree.cutTrailing ts).2, P t := by
  refine ⟨fun t ht => h t (List.mem_of_mem_take ht), fun t ht => h t ?_⟩
  exact List.mem_reverse.1 (List.takeWhile_subset _ (List.mem_reverse.1 ht))

namespace Stack

/-! ## 1.  Nodes and versions -/

/-- A node all of whose links have trees of a property. -/
def Node.All (P : Tree → Prop) (n : Node) : Prop := ∀ l ∈ n.links, ∀ t ∈ l.tree, P t

/-- A version that does not wait, or before a tree of a property. -/
def Waits (P : Tree → Prop) (v : Version) : Prop :=
  ∀ next rest, v.status = .paused next rest → P next

/-- A stack on which all trees have a property. -/
structure All (P : Tree → Prop) (s : Stack) : Prop where
  nodes : ∀ n ∈ s.nodes, n.All P
  versions : ∀ v ∈ s.versions, Waits P v

theorem All.node {s : Stack} (h : s.All P) (i : Nat) : (s.node i).All P := by
  rw [Stack.node, Array.getD_eq_getD_getElem?]
  cases hi : s.nodes[i]? with
  | none => exact fun l hl => absurd hl List.not_mem_nil
  | some n => exact h.nodes n (Array.mem_of_getElem? hi)

theorem All.version {s : Stack} (h : s.All P) (v : Nat) : Waits P (s.version v) := by
  rw [Stack.version, List.getD_eq_getElem?_getD]
  cases hv : s.versions[v]? with
  | none => exact fun next rest hstatus => by cases hstatus
  | some version => exact h.versions version (List.mem_of_getElem? hv)

theorem All.top {s : Stack} (h : s.All P) (v : Nat) : (s.top v).All P := h.node _

theorem All.modify {s : Stack} (h : s.All P) {f : Version → Version}
    (hf : ∀ v, Waits P v → Waits P (f v)) (v : Nat) : (s.modify v f).All P := by
  refine ⟨h.nodes, fun w hw => ?_⟩
  rcases mem_modify hw with hw | ⟨u, hu, rfl⟩
  · exact h.versions w hw
  · exact hf u (h.versions u hu)

theorem All.drop {s : Stack} (h : s.All P) (v : Nat) : (s.drop v).All P :=
  ⟨h.nodes, fun w hw => h.versions w (List.mem_of_mem_eraseIdx hw)⟩

theorem All.keep {s : Stack} (h : s.All P) (n : Nat) : (s.keep n).All P :=
  ⟨h.nodes, fun w hw => h.versions w (List.mem_of_mem_take hw)⟩

theorem All.halt {s : Stack} (h : s.All P) (v : Nat) : (s.halt v).All P :=
  h.modify (fun _ _ _ _ hstatus => by cases hstatus) v

theorem All.pause {s : Stack} (h : s.All P) (v : Nat) {next : Tree} (hnext : P next)
    (rest : Text) : (s.pause v next rest).All P := by
  refine h.modify (fun _ _ next' rest' hstatus => ?_) v
  obtain ⟨rfl, -⟩ := Status.paused.inj hstatus
  exact hnext

theorem All.add {s : Stack} (h : s.All P) {v : Version} (hv : Waits P v) : (s.add v).All P := by
  refine ⟨h.nodes, fun w hw => ?_⟩
  rcases List.mem_append.1 hw with hw | hw
  · exact h.versions w hw
  · exact List.mem_singleton.1 hw ▸ hv

theorem All.replace {s : Stack} (h : s.All P) (old new : Nat) : (s.replace old new).All P := by
  rw [Stack.replace]
  split
  · exact h
  · refine All.drop (All.modify h ?_ old) new
    exact fun _ _ => h.version new

theorem All.swap {s : Stack} (h : s.All P) (v w : Nat) : (s.swap v w).All P :=
  (h.modify (fun _ _ => h.version w) v).modify (fun _ _ => h.version v) w

theorem All.settle {s : Stack} (h : s.All P) (v : Nat) : (s.settle v).All P := by
  refine All.modify h ?_ v
  exact fun _ hw => hw

theorem All.push {s : Stack} (h : s.All P) (v : Nat) {tree : Option Tree} (ht : ∀ t ∈ tree, P t)
    (state : Nat) (rest : Text) : (s.push v tree state rest).All P := by
  unfold Stack.push
  extract_lets before b n place count
  have hpushed : All P { s with nodes := s.nodes.push n } := by
    refine ⟨fun m hm => ?_, h.versions⟩
    rcases Array.mem_push.1 hm with hm | rfl
    · exact h.nodes m hm
    · cases tree with
      | none =>
        intro l hl t ht
        obtain rfl := List.mem_singleton.1 hl
        cases ht
      | some t =>
        intro l hl u hu
        obtain rfl := List.mem_singleton.1 hl
        exact ht u hu
  refine hpushed.modify ?_ v
  exact fun _ hw => hw

theorem All.pushTree {s : Stack} (h : s.All P) (v : Nat) {t : Tree} (ht : P t) (state : Nat)
    (rest : Text) : (s.push v (some t) state rest).All P :=
  h.push v (fun _ hu => Option.some.inj hu ▸ ht) state rest

theorem All.pushAll {s : Stack} (h : s.All P) (v state : Nat) (rest : Text) {ts : List Tree}
    (hts : ∀ t ∈ ts, P t) : (s.pushAll v state rest ts).All P := by
  induction ts generalizing s with
  | nil => exact h
  | cons t ts ih =>
    obtain ⟨ht, hts⟩ := List.forall_mem_cons.1 hts
    exact ih (h.pushTree v ht state _) hts

/-! ## 2.  Joining versions -/

theorem All.modifyNode {s : Stack} (h : s.All P) {f : Node → Node}
    (hf : ∀ n, n.All P → (f n).All P) (i : Nat) :
    All P { s with nodes := s.nodes.modify i f } := by
  refine ⟨fun n hn => ?_, h.versions⟩
  rw [← Array.mem_toList_iff, Array.toList_modify] at hn
  rcases mem_modify hn with hn | ⟨m, hm, rfl⟩
  · exact h.nodes n (Array.mem_toList_iff.1 hn)
  · exact hf m (h.nodes m (Array.mem_toList_iff.1 hm))

/-- A link that is joined with another one brings the links of its node along, so the induction is on
how far the joining goes. -/
theorem All.addLink {n : Nat} {s : Stack} (h : s.All P) (i : Nat) {link : Link}
    (hlink : ∀ t ∈ link.tree, P t) : (addLink n s i link).All P := by
  induction n generalizing s i link with
  | zero => exact h
  | succ n ih =>
    rw [Stack.addLink]
    split
    · exact h
    · dsimp only
      split
      · split
        · refine h.modifyNode (fun m hm l hl => ?_) i
          rcases mem_modify hl with hl | ⟨l', -, rfl⟩
          · exact hm l hl
          · exact hlink
        · exact h
      · rename_i older _
        refine All.modifyNode ?_ ?_ i
        · exact List.foldlRecOn _ _ h fun s' hs' l hl => ih hs' older ((h.node link.node) l hl)
        · exact fun _ hm => hm
      · split
        · exact h
        · refine h.modifyNode (fun m hm l hl => ?_) i
          rcases List.mem_append.1 hl with hl | hl
          · exact hm l hl
          · obtain rfl := List.mem_singleton.1 hl
            exact hlink

theorem All.merge {s : Stack} (h : s.All P) (v w : Nat) : (s.merge v w).All P := by
  have hlinks : ((s.top w).links.foldl
      (fun s' l => Stack.addLink s'.nodes.size s' (s.version v).node l) s).All P :=
    List.foldlRecOn _ _ h fun s' hs' l hl => hs'.addLink _ ((h.top w) l hl)
  unfold Stack.merge
  refine All.drop ?_ w
  split
  · refine All.modify hlinks ?_ v
    exact fun _ hw => hw
  · exact hlinks

/-! ## 3.  Going back -/

/-- A way back on which all trees have a property. -/
def Trail.All (P : Tree → Prop) (trail : Trail) : Prop := ∀ t ∈ trail.trees, P t

theorem Trail.All.over {trail : Trail} (h : trail.All P) {link : Link} (hlink : ∀ t ∈ link.tree, P t) :
    (trail.over link).All P := by
  unfold Trail.over
  split
  · rename_i t ht
    exact List.forall_mem_cons.2 ⟨hlink t ht, h⟩
  · exact h

/-- One round: the ways that go on, those that split off, and those that were taken. -/
theorem all_round {α : Type} {s : Stack} (hs : s.All P) (decide : α → Trail → α × Verdict)
    {open_ kept split : List Trail} {w : Walk α} (hopen : ∀ trail ∈ open_, trail.All P)
    (hkept : ∀ trail ∈ kept, trail.All P) (hsplit : ∀ trail ∈ split, trail.All P)
    (htaken : ∀ trail ∈ w.taken, trail.All P) :
    (∀ trail ∈ (s.round decide open_ kept split w).1.taken, trail.All P) ∧
      ∀ trail ∈ (s.round decide open_ kept split w).2, trail.All P := by
  induction open_ generalizing kept split w with
  | nil =>
    refine ⟨htaken, fun trail htrail => ?_⟩
    rcases List.mem_append.1 htrail with htrail | htrail
    · exact hkept trail (List.mem_reverse.1 htrail)
    · exact hsplit trail htrail
  | cons trail open_ ih =>
    obtain ⟨htrail, hopen⟩ := List.forall_mem_cons.1 hopen
    have htaken' : ∀ {p : Prop} [Decidable p],
        ∀ t ∈ (if p then w.taken ++ [trail] else w.taken), t.All P := by
      intro p _ t ht
      split at ht
      · rcases List.mem_append.1 ht with ht | ht
        · exact htaken t ht
        · exact List.mem_singleton.1 ht ▸ htrail
      · exact htaken t ht
    have hnode := hs.node trail.node
    unfold Stack.round
    dsimp only
    split
    · exact ih hopen hkept hsplit htaken'
    · rename_i first others hlinks
      rw [Node.All, hlinks] at hnode
      obtain ⟨hfirst, hothers⟩ := List.forall_mem_cons.1 hnode
      split
      · exact ih hopen hkept hsplit htaken'
      · refine ih hopen (List.forall_mem_cons.2 ⟨htrail.over hfirst, hkept⟩) (fun t ht => ?_) htaken'
        rcases List.mem_append.1 ht with ht | ht
        · exact hsplit t ht
        · obtain ⟨link, hlink, rfl⟩ := List.mem_map.1 ht
          exact htrail.over (hothers link (List.mem_of_mem_take hlink))

theorem all_rounds {α : Type} {s : Stack} (hs : s.All P) (decide : α → Trail → α × Verdict) {n : Nat}
    {trails : List Trail} {w : Walk α} (htrails : ∀ trail ∈ trails, trail.All P)
    (htaken : ∀ trail ∈ w.taken, trail.All P) :
    ∀ trail ∈ (s.rounds decide n trails w).taken, trail.All P := by
  induction n generalizing trails w with
  | zero => exact htaken
  | succ n ih =>
    unfold Stack.rounds
    split
    · exact htaken
    · obtain ⟨htaken', htrails'⟩ := all_round hs decide htrails
        (fun _ h => absurd h List.not_mem_nil) (fun _ h => absurd h List.not_mem_nil) htaken
      exact ih htrails' htaken'

/-- The ways back that are taken have trees of the stack. -/
theorem all_walk {α : Type} {s : Stack} (hs : s.All P) (v : Nat) (note : α)
    (decide : α → Trail → α × Verdict) : ∀ trail ∈ (s.walk v note decide).taken, trail.All P := by
  refine all_rounds hs decide (fun trail htrail => ?_) fun _ h => absurd h List.not_mem_nil
  obtain rfl := List.mem_singleton.1 htrail
  exact fun _ h => absurd h List.not_mem_nil

/-- A stack and trees that were taken off it, all of a property. -/
structure Parted (P : Tree → Prop) (r : Stack × List Slice) : Prop where
  stack : r.1.All P
  slices : ∀ slice ∈ r.2, ∀ t ∈ slice.trees, P t

theorem All.branchOff {s : Stack} (h : s.All P) (v : Nat) {trails : List Trail}
    (htrails : ∀ trail ∈ trails, trail.All P) : Parted P (s.branchOff v trails) := by
  have hstart : Parted P (s, []) := ⟨h, fun _ h => absurd h List.not_mem_nil⟩
  refine List.foldlRecOn trails _ hstart fun r hr trail htrail => ?_
  obtain ⟨s', slices⟩ := r
  dsimp only
  split
  · refine ⟨hr.stack, fun slice hslice => ?_⟩
    rcases List.mem_append.1 hslice with hslice | hslice
    · exact hr.slices slice (List.mem_of_mem_take hslice)
    · rcases List.mem_cons.1 hslice with rfl | hslice
      · exact htrails trail htrail
      · exact hr.slices slice (List.mem_of_mem_drop hslice)
  · refine ⟨hr.stack.add fun _ _ hstatus => (by cases hstatus), fun slice hslice => ?_⟩
    rcases List.mem_append.1 hslice with hslice | hslice
    · exact hr.slices slice hslice
    · obtain rfl := List.mem_singleton.1 hslice
      exact htrails trail htrail

theorem All.pop {s : Stack} (h : s.All P) (v n : Nat) : Parted P (s.pop v n) :=
  h.branchOff v (all_walk h v () _)

theorem All.popAll {s : Stack} (h : s.All P) (v : Nat) : Parted P (s.popAll v) :=
  h.branchOff v (all_walk h v () _)

theorem All.popMistake {s : Stack} (h : s.All P) (v : Nat) :
    (s.popMistake v).1.All P ∧ ∀ t ∈ (s.popMistake v).2, P t := by
  unfold Stack.popMistake
  dsimp only
  split
  · split
    · rename_i s' slice slices hparted
      have hr : Parted P (s', slice :: slices) := hparted ▸ h.branchOff v (all_walk h v false _)
      exact ⟨hr.stack.replace v slice.version, hr.slices slice (List.mem_cons_self ..)⟩
    · rename_i s' hparted
      have hr : Parted P (s', []) := hparted ▸ h.branchOff v (all_walk h v false _)
      exact ⟨hr.stack, fun _ h => absurd h List.not_mem_nil⟩
  · exact ⟨h, fun _ h => absurd h List.not_mem_nil⟩

theorem All.noteLandmarks {s : Stack} (h : s.All P) (v : Nat) : (s.noteLandmarks v).All P := by
  refine All.modify h ?_ v
  exact fun _ hw => hw

/-! ## 4.  Closing phrases -/

theorem all_bestPhrase (hP : Reader.Keeps a P) (p : Production) {group : List Slice}
    (hgroup : ∀ slice ∈ group, ∀ t ∈ slice.trees, P t) :
    P (bestPhrase p group).1 ∧ ∀ t ∈ (bestPhrase p group).2, P t := by
  cases group with
  | nil =>
    exact ⟨hP.node _ _ _ fun _ h => absurd h List.not_mem_nil, fun _ h => absurd h List.not_mem_nil⟩
  | cons first others =>
    obtain ⟨hfirst, hothers⟩ := List.forall_mem_cons.1 hgroup
    have hmake : ∀ slice : Slice, (∀ t ∈ slice.trees, P t) →
        P (Tree.node p.symbol p.names (Tree.cutTrailing slice.trees).1) ∧
          ∀ t ∈ (Tree.cutTrailing slice.trees).2, P t := by
      intro slice hslice
      obtain ⟨hparts, hbehind⟩ := mem_cutTrailing hslice
      exact ⟨hP.node _ _ _ hparts, hbehind⟩
    unfold bestPhrase
    dsimp only
    refine List.foldlRecOn others _ (motive := fun (r : Tree × List Tree) => P r.1 ∧ ∀ t ∈ r.2, P t)
      (hmake first hfirst) fun best hbest slice hslice => ?_
    split
    · exact hmake slice (hothers slice hslice)
    · exact hbest

theorem All.close (hP : Reader.Keeps a P) {s : Stack} (h : s.All P) (p : Production)
    (from_ : Nat) (rest : Text) (halted removed : Nat) {groups : List (List Slice)}
    (hgroups : ∀ group ∈ groups, ∀ slice ∈ group, ∀ t ∈ slice.trees, P t) :
    (Stack.close a p from_ rest halted removed groups s).All P := by
  induction groups generalizing s removed with
  | nil => exact h
  | cons group groups ih =>
    obtain ⟨hgroup, hgroups⟩ := List.forall_mem_cons.1 hgroups
    obtain ⟨hphrase, hbehind⟩ := all_bestPhrase hP p hgroup
    unfold Stack.close
    dsimp only
    split
    · exact ih (h.drop _) _ hgroups
    · have hpushed := h.pushAll ((group.headD ⟨0, []⟩).version - removed)
        ((a.successor? (s.top ((group.headD ⟨0, []⟩).version - removed)).state p.symbol).getD 0) rest
        (List.forall_mem_cons.2 ⟨hP.raise p.rank _ hphrase, hbehind⟩)
      split
      · exact ih (hpushed.merge _ _) _ hgroups
      · exact ih hpushed _ hgroups

theorem All.reduce (hP : Reader.Keeps a P) {s : Stack} (h : s.All P) (v : Nat) (p : Production) :
    (s.reduce a v p).All P := by
  obtain ⟨hstack, hslices⟩ := h.pop v p.length
  unfold Stack.reduce
  refine hstack.close hP p v _ _ 0 fun group hgroup slice hslice => hslices slice ?_
  rw [← List.flatten_splitBy (fun x y : Slice => decide (x.version = y.version)) (s.pop v p.length).2]
  exact List.mem_flatten.2 ⟨group, hgroup, hslice⟩

/-! ## 5.  Mending -/

theorem All.reduceEach (hP : Reader.Keeps a P) {s : Stack} (h : s.All P) (v : Nat)
    (ps : List Production) : (s.reduceEach a v ps).1.All P :=
  List.foldlRecOn ps _ (motive := fun (r : Stack × Option Nat) => r.1.All P) h
    fun _ hr p _ => hr.reduce hP v p

/-- Versions are joined, closed, replaced or dropped until nothing is left to be closed. -/
theorem All.closeFrom (hP : Reader.Keeps a P) {tokens : List Symbol} {all : Bool} {start first : Nat}
    {n spare v : Nat} {can : Bool} {s : Stack} (h : s.All P) :
    (Stack.closeFrom a tokens all start first n spare v can s).1.All P := by
  have hdropped : ∀ {s : Stack} {v : Nat}, s.All P → (if all = true then s else s.drop v).All P := by
    intro s v h
    split
    · exact h
    · exact h.drop v
  induction n generalizing spare v can s with
  | zero => exact h
  | succ n ih =>
    unfold Stack.closeFrom
    dsimp only
    split
    · exact h
    · split
      · exact ih (h.merge _ _)
      · have hreduced := h.reduceEach hP v (prospect a (s.top v).state tokens).closes
        split
        · exact ih hreduced
        · split
          · split
            · exact ih (hreduced.replace _ _)
            · exact ih (hdropped hreduced)
          · exact ih (hdropped hreduced)

theorem All.closeAll (hP : Reader.Keeps a P) {s : Stack} (h : s.All P) (v : Nat)
    (token : Option Symbol) : (s.closeAll a v token).1.All P :=
  h.closeFrom hP

theorem All.insertMissing (hP : Reader.Keeps a P) {v : Nat} {next : Symbol} {symbols : List Symbol}
    {s : Stack} (h : s.All P) : (Stack.insertMissing a v next symbols s).1.All P := by
  induction symbols generalizing s with
  | nil => exact h
  | cons symbol more ih =>
    unfold Stack.insertMissing
    dsimp only
    split
    · rename_i state _
      split
      · have hadded : All P (s.add { s.version v with landmarks := none }) := h.add (h.version v)
        have hpushed : All P ((s.add { s.version v with landmarks := none }).push s.versions.length
            (some (Tree.absent symbol)) state (s.top v).rest) :=
          hadded.pushTree _ (hP.absent symbol) state _
        have hclosed := hpushed.closeAll hP s.versions.length
          (if next = Symbol.fileEnd then none else some next)
        split
        · rename_i hcan
          rw [hcan] at hclosed
          exact hclosed
        · rename_i hcan
          rw [hcan] at hclosed
          exact ih hclosed
      · exact ih h
    · exact ih h

theorem All.breakOff (hP : Reader.Keeps a P) {next : Symbol} {versions : List Nat} {inserted : Bool}
    {s : Stack} (h : s.All P) : (Stack.breakOff a next versions inserted s).All P := by
  induction versions generalizing inserted s with
  | nil => exact h
  | cons v vs ih =>
    have hnone : ∀ {s : Stack}, s.All P → (s.push v none mistakeState (s.top v).rest).All P :=
      fun hs => hs.push v (fun _ ht => by cases ht) _ _
    have hinserted : (if inserted then (s, true) else
        Stack.insertMissing a v next allTokens s).1.All P := by
      split
      · exact h
      · exact h.insertMissing hP
    exact ih (hnone hinserted)

theorem All.mergeAll {v w n : Nat} {s : Stack} (h : s.All P) : (Stack.mergeAll v w n s).All P := by
  induction n generalizing s with
  | zero => exact h
  | succ n ih =>
    unfold Stack.mergeAll
    split
    · exact ih (h.merge v w)
    · exact ih h

/-- What was taken off becomes the parts of a mistake, together with the parts of the mistake
before it. -/
theorem All.resumeAt (hP : Reader.Keeps a P) {state : Nat} {rest : Text} {slices : List Slice}
    {last : Option Nat} {s : Stack} (h : s.All P) (hslices : ∀ slice ∈ slices, ∀ t ∈ slice.trees, P t) :
    (Stack.resumeAt state rest slices last s).1.All P := by
  induction slices generalizing last s with
  | nil => exact h
  | cons slice slices ih =>
    obtain ⟨hslice, hslices⟩ := List.forall_mem_cons.1 hslices
    unfold Stack.resumeAt
    dsimp only
    split
    · exact ih h hslices
    · split
      · exact ih (h.halt _) hslices
      · obtain ⟨hstack, hbefore⟩ := h.popMistake slice.version
        have htrees : ∀ t ∈ (((s.popMistake slice.version).2.head?.map Tree.parts).getD []) ++
            slice.trees, P t := by
          intro t ht
          rcases List.mem_append.1 ht with ht | ht
          · cases hhead : (s.popMistake slice.version).2.head? with
            | none =>
              rw [hhead] at ht
              cases ht
            | some u =>
              rw [hhead] at ht
              exact hP.part u (hbefore u (List.mem_of_head? hhead)) t ht
          · exact hslice t ht
        obtain ⟨hparts, hbehind⟩ := mem_cutTrailing htrees
        refine ih (hstack.pushAll _ _ _ fun t ht => ?_) hslices
        rcases List.mem_append.1 ht with ht | ht
        · split at ht
          · cases ht
          · obtain rfl := List.mem_singleton.1 ht
            exact hP.between true _ (hP.node _ _ _ hparts)
        · exact hbehind t ht

theorem All.recoverTo (hP : Reader.Keeps a P) {s : Stack} (h : s.All P) (v depth state : Nat) :
    (s.recoverTo v depth state).1.All P := by
  obtain ⟨hstack, hslices⟩ := h.pop v depth
  exact hstack.resumeAt hP hslices

theorem All.dropIdle {s : Stack} (h : s.All P) (n : Nat) : (s.dropIdle n).All P := by
  refine ⟨h.nodes, fun w hw => ?_⟩
  rcases List.mem_append.1 hw with hw | hw
  · exact h.versions w (List.mem_of_mem_take hw)
  · exact h.versions w (List.mem_of_mem_drop (List.mem_filter.1 hw).1)

end Stack

end UiHarness.Syntax
