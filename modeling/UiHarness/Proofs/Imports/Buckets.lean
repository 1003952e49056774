import Mathlib.Data.List.Induction
import UiHarness.Imports.Bucket

/-!
# Imports by origin, and those of several files

The bindings of a file are put into their groups one after the other, and a group only ever grows at
its end.  So each group is what is left of the bindings when those of the other groups are dropped:
the order stays, and a binding that comes twice is there twice.

Over several files the groups are treated differently.  Those for files nearby and for other modules
are joined.  The one for the UI library takes the first binding of each local name only, and whether
a name has come is remembered across the files.  The loop that does so has three lists and a set of
names in its hands; what it comes to is one list, from which each binding is dropped whose local
name occurs at an earlier position.

* `Origin.of_eq_*_iff`: the group of a module, told by its specifier.
* `Bucket.Sorted`, `Bucket.sorted`: the groups of a list of bindings.
* `Bucket.firstOnes`: the bindings whose local names do not occur before them, and
  `Bucket.firstOfEach_eq`.
* `Gathering.Holds`: what is known of the loop over the files, with one lemma for a file and one for
  a run.
* `Bucket.Together`, `Bucket.together`: the bindings of several files.
* `Bucket.classified`: both together.
-/

namespace UiHarness

section Groups

variable {α κ : Type} [DecidableEq κ] (f : α → κ)

/-- Groups by the value of a function, one after the other, are what of the list has these values,
in another order. -/
theorem perm_flatMap_filter_mem {ks : List κ} (hks : ks.Nodup) (l : List α) :
    (ks.flatMap fun k => l.filter fun a => f a = k).Perm (l.filter fun a => f a ∈ ks) := by
  induction ks with
  | nil => simp
  | cons k ks ih =>
    obtain ⟨hk, hks⟩ := List.nodup_cons.1 hks
    have hgroup : (l.filter fun a => f a ∈ k :: ks).filter (fun a => f a = k) =
        l.filter fun a => f a = k := by
      rw [List.filter_filter]
      exact List.filter_congr fun a _ => by simp +contextual
    have hrest : (l.filter fun a => f a ∈ k :: ks).filter (fun a => !decide (f a = k)) =
        l.filter fun a => f a ∈ ks := by
      rw [List.filter_filter]
      refine List.filter_congr fun a _ => ?_
      by_cases ha : f a = k
      · simp [ha, hk]
      · simp [ha]
    have hsplit := List.filter_append_perm (fun a => decide (f a = k))
      (l.filter fun a => f a ∈ k :: ks)
    rw [hgroup, hrest] at hsplit
    rw [List.flatMap_cons]
    exact ((ih hks).append_left _).trans hsplit

/-- A list is made of its groups, in another order. -/
theorem perm_flatMap_filter {ks : List κ} (hks : ks.Nodup) {l : List α} (h : ∀ a ∈ l, f a ∈ ks) :
    (ks.flatMap fun k => l.filter fun a => f a = k).Perm l := by
  have hall : (l.filter fun a => f a ∈ ks) = l :=
    List.filter_eq_self.2 fun a ha => decide_eq_true (h a ha)
  exact (perm_flatMap_filter_mem f hks l).trans (.of_eq hall)

end Groups

/-! ## 1.  The group of a module -/

namespace Origin

variable {libraries : List Text} {source : Text}

/-- A specifier of the library: one of those given, or one that continues it behind a slash. -/
def Library (libraries : List Text) (source : Text) : Prop :=
  ∃ l ∈ libraries, source = l ∨ l ++ ['/'] <+: source

/-- A specifier that is a relative path. -/
def Relative (source : Text) : Prop := "./".toList <+: source ∨ "../".toList <+: source

theorem isLibrary_iff : isLibrary libraries source = true ↔ Library libraries source := by
  simp only [isLibrary, Library, List.any_eq_true, Bool.or_eq_true, decide_eq_true_eq,
    Text.startsWith, List.isPrefixOf_iff_prefix]

theorem isNearby_iff : isNearby source = true ↔ Relative source := by
  rw [isNearby, Relative, Bool.or_eq_true, Text.startsWith, Text.startsWith,
    List.isPrefixOf_iff_prefix, List.isPrefixOf_iff_prefix]

theorem of_eq_uiLibrary_iff : of libraries source = .uiLibrary ↔ Library libraries source := by
  rw [of, ← isLibrary_iff]
  cases isLibrary libraries source <;> cases isNearby source <;> decide

theorem of_eq_nearby_iff :
    of libraries source = .nearby ↔ ¬ Library libraries source ∧ Relative source := by
  rw [of, ← isLibrary_iff, ← isNearby_iff]
  cases isLibrary libraries source <;> cases isNearby source <;> decide

theorem of_eq_elsewhere_iff :
    of libraries source = .elsewhere ↔ ¬ Library libraries source ∧ ¬ Relative source := by
  rw [of, ← isLibrary_iff, ← isNearby_iff]
  cases isLibrary libraries source <;> cases isNearby source <;> decide

end Origin

namespace Bucket

/-! ## 2.  The groups of a list of bindings -/

/-- The bindings of one origin. -/
def group (b : Bucket) : Origin → List Binding
  | .uiLibrary => b.ui
  | .nearby => b.nearby
  | .elsewhere => b.elsewhere

/-- A binding is put at the end of its own group, and nowhere else. -/
theorem group_add (libraries : List Text) (bucket : Bucket) (b : Binding) (o : Origin) :
    (bucket.add libraries b).group o =
      bucket.group o ++ [b].filter fun x => Origin.of libraries x.source = o := by
  rw [add]
  cases hb : Origin.of libraries b.source <;> cases o <;> simp [group, hb]

/-- **Bindings are put into groups in their order**, behind those that are there. -/
theorem group_foldl_add (libraries : List Text) (bucket : Bucket) (bindings : List Binding)
    (o : Origin) : (bindings.foldl (add libraries) bucket).group o =
      bucket.group o ++ bindings.filter fun b => Origin.of libraries b.source = o := by
  induction bindings generalizing bucket with
  | nil => exact (List.append_nil _).symm
  | cons b bindings ih =>
    rw [List.foldl_cons, ih, group_add, List.append_assoc, ← List.filter_append,
      List.singleton_append]

theorem group_ofBindings (libraries : List Text) (bindings : List Binding) (o : Origin) :
    (ofBindings libraries bindings).group o =
      bindings.filter fun b => Origin.of libraries b.source = o := by
  rw [ofBindings, group_foldl_add]
  cases o <;> rfl

/-- The bindings of a list that come from the UI library. -/
theorem ui_ofBindings (libraries : List Text) (bindings : List Binding) :
    (ofBindings libraries bindings).ui =
      bindings.filter fun b => Origin.isLibrary libraries b.source := by
  refine (group_ofBindings libraries bindings .uiLibrary).trans ?_
  refine List.filter_congr fun b _ => ?_
  rw [Bool.eq_iff_iff, decide_eq_true_eq, Origin.of_eq_uiLibrary_iff, Origin.isLibrary_iff]

/-- The groups of a list of bindings. -/
structure Sorted (libraries : List Text) (bindings : List Binding) (bucket : Bucket) : Prop where
  /-- A group is the list without the bindings of other origins. -/
  group_eq : ∀ o, bucket.group o = bindings.filter fun b => Origin.of libraries b.source = o
  /-- A binding is in the group for the UI library exactly if its module is one of the library's, -/
  ui : ∀ b, b ∈ bucket.ui ↔ b ∈ bindings ∧ Origin.Library libraries b.source
  /-- else in the one for files nearby exactly if its module is named by a relative path, -/
  nearby : ∀ b, b ∈ bucket.nearby ↔
    b ∈ bindings ∧ ¬ Origin.Library libraries b.source ∧ Origin.Relative b.source
  /-- else in the last one. -/
  elsewhere : ∀ b, b ∈ bucket.elsewhere ↔
    b ∈ bindings ∧ ¬ Origin.Library libraries b.source ∧ ¬ Origin.Relative b.source
  /-- A group has a binding as often as the list, or not at all. -/
  count : ∀ o b, (bucket.group o).count b =
    if Origin.of libraries b.source = o then bindings.count b else 0
  /-- The groups together are the list, in another order. -/
  perm : bucket.all.Perm bindings

/-- A group has a binding as often as the list, or not at all. -/
theorem count_group_ofBindings (libraries : List Text) (bindings : List Binding) (o : Origin)
    (b : Binding) : ((ofBindings libraries bindings).group o).count b =
      if Origin.of libraries b.source = o then bindings.count b else 0 := by
  rw [group_ofBindings]
  split
  · rename_i h
    exact List.count_filter (decide_eq_true h)
  · rename_i h
    exact List.count_eq_zero.2 fun hmem => h (of_decide_eq_true (List.mem_filter.1 hmem).2)

theorem mem_group_ofBindings {libraries : List Text} {bindings : List Binding} {o : Origin}
    {b : Binding} : b ∈ (ofBindings libraries bindings).group o ↔
      b ∈ bindings ∧ Origin.of libraries b.source = o := by
  rw [group_ofBindings, List.mem_filter, decide_eq_true_eq]

/-- **The groups of a list of bindings**, for any specifiers of the library. -/
theorem sorted (libraries : List Text) (bindings : List Binding) :
    Sorted libraries bindings (ofBindings libraries bindings) where
  group_eq := group_ofBindings libraries bindings
  ui b := by rw [← Origin.of_eq_uiLibrary_iff]; exact mem_group_ofBindings (o := .uiLibrary)
  nearby b := by rw [← Origin.of_eq_nearby_iff]; exact mem_group_ofBindings (o := .nearby)
  elsewhere b := by
    rw [← Origin.of_eq_elsewhere_iff]; exact mem_group_ofBindings (o := .elsewhere)
  count := count_group_ofBindings libraries bindings
  perm := by
    have horigins : ∀ o : Origin, o ∈ [Origin.uiLibrary, .nearby, .elsewhere] := by
      intro o
      cases o <;> decide
    have hall : (ofBindings libraries bindings).all =
        [Origin.uiLibrary, .nearby, .elsewhere].flatMap (ofBindings libraries bindings).group := by
      rw [all, List.append_assoc]
      simp [group]
    rw [hall, funext (group_ofBindings libraries bindings)]
    exact perm_flatMap_filter (fun b : Binding => Origin.of libraries b.source) (by decide)
      fun b _ => horigins _

/-! ## 3.  The first binding of each name -/

/-- The bindings of a list whose local names do not occur at an earlier position. -/
def firstOnes (l : List Binding) : List Binding :=
  (l.zipIdx.filter fun x => x.1.localName ∉ (l.take x.2).map Binding.localName).map Prod.fst

/-- Only which names have been seen matters. -/
theorem firstOfEach_congr {seen seen' : List Text} (h : ∀ name, name ∈ seen ↔ name ∈ seen')
    (l : List Binding) : firstOfEach seen l = firstOfEach seen' l := by
  induction l generalizing seen seen' with
  | nil => rfl
  | cons b l ih =>
    have hcons : ∀ name, name ∈ b.localName :: seen ↔ name ∈ b.localName :: seen' := fun name => by
      rw [List.mem_cons, List.mem_cons, h]
    rw [firstOfEach, firstOfEach, ih h, ih hcons]
    simp only [h]

/-- The names of what comes first have been seen by what comes behind it. -/
theorem firstOfEach_append (seen : List Text) (l l' : List Binding) :
    firstOfEach seen (l ++ l') =
      firstOfEach seen l ++ firstOfEach (l.map Binding.localName ++ seen) l' := by
  induction l generalizing seen with
  | nil => rfl
  | cons b l ih =>
    rw [List.cons_append, firstOfEach, firstOfEach, ih, ih, List.map_cons, List.cons_append]
    split
    · rename_i hseen
      -- the name is dropped here, but it has been seen, so it may count as seen by what follows
      refine congrArg _ (firstOfEach_congr (fun name => ?_) l')
      rw [List.mem_cons, List.mem_append]
      constructor
      · exact .inr
      · rintro (rfl | h)
        · exact .inr hseen
        · exact h
    · rw [List.cons_append]
      refine congrArg _ (congrArg _ (firstOfEach_congr (fun name => ?_) l'))
      rw [List.mem_append, List.mem_cons, List.mem_cons, List.mem_append, or_left_comm]

/-- One more binding stays if its name does not occur before. -/
theorem firstOnes_concat (l : List Binding) (b : Binding) :
    firstOnes (l ++ [b]) =
      firstOnes l ++ if b.localName ∈ l.map Binding.localName then [] else [b] := by
  have hfront : l.zipIdx.filter (fun x =>
      decide (x.1.localName ∉ ((l ++ [b]).take x.2).map Binding.localName)) =
        l.zipIdx.filter fun x => decide (x.1.localName ∉ (l.take x.2).map Binding.localName) := by
    refine List.filter_congr fun x hx => ?_
    rw [List.take_append_of_le_length (Nat.le_of_lt (List.snd_lt_of_mem_zipIdx hx))]
  have hlast : ([b].zipIdx (0 + l.length)).filter (fun x =>
      decide (x.1.localName ∉ ((l ++ [b]).take x.2).map Binding.localName)) =
        if b.localName ∈ l.map Binding.localName then [] else [(b, 0 + l.length)] := by
    rw [List.zipIdx_singleton, List.filter_cons, List.filter_nil, Nat.zero_add, List.take_left]
    by_cases hb : b.localName ∈ l.map Binding.localName
    · rw [if_pos hb, if_neg (by simpa using hb)]
    · rw [if_neg hb, if_pos (by simpa using hb)]
  rw [firstOnes, List.zipIdx_append, List.filter_append, List.map_append, hfront, hlast, firstOnes]
  split <;> rfl

/-- **What is dropped are the bindings whose names occur before**, position by position. -/
theorem firstOfEach_eq (l : List Binding) : firstOfEach [] l = firstOnes l := by
  induction l using List.reverseRecOn with
  | nil => rfl
  | append_singleton l b ih =>
    rw [firstOfEach_append, firstOnes_concat, ih, List.append_nil]
    rfl

/-- Only names that have been seen are lost. -/
theorem mem_names_firstOfEach {seen : List Text} {l : List Binding} {name : Text} :
    name ∈ (firstOfEach seen l).map Binding.localName ↔
      name ∈ l.map Binding.localName ∧ name ∉ seen := by
  induction l generalizing seen with
  | nil => simp [firstOfEach]
  | cons b l ih =>
    rw [firstOfEach, List.map_cons, List.mem_cons]
    split
    · rename_i hseen
      rw [ih]
      refine and_congr_left fun hname => (or_iff_right fun heq => ?_).symm
      exact hname (heq ▸ hseen)
    · rename_i hseen
      rw [List.map_cons, List.mem_cons, ih, List.mem_cons, not_or]
      by_cases heq : name = b.localName
      · simp [heq, hseen]
      · simp [heq]

/-- Names that have been seen do not come again. -/
theorem not_seen_of_mem_firstOfEach {seen : List Text} {l : List Binding} {b : Binding}
    (h : b ∈ firstOfEach seen l) : b.localName ∉ seen :=
  (mem_names_firstOfEach.1 (List.mem_map_of_mem h)).2

/-- No name is bound twice. -/
theorem nodup_firstOfEach (seen : List Text) (l : List Binding) :
    ((firstOfEach seen l).map (·.localName)).Nodup := by
  induction l generalizing seen with
  | nil => exact List.nodup_nil
  | cons a l ih =>
    rw [firstOfEach]
    split
    · exact ih seen
    · rw [List.map_cons, List.nodup_cons]
      refine ⟨fun h => ?_, ih _⟩
      obtain ⟨b, hb, hname⟩ := List.mem_map.1 h
      exact not_seen_of_mem_firstOfEach hb (hname ▸ List.mem_cons_self ..)

end Bucket

/-! ## 4.  The loop over the files -/

namespace Gathering

variable {g : Gathering} {files : List Bucket}

/-- What is known of what has been gathered from some files. -/
structure Holds (files : List Bucket) (g : Gathering) : Prop where
  ui : g.bucket.ui = Bucket.firstOfEach [] (files.flatMap Bucket.ui)
  nearby : g.bucket.nearby = files.flatMap Bucket.nearby
  elsewhere : g.bucket.elsewhere = files.flatMap Bucket.elsewhere
  seen : ∀ name, name ∈ g.seen ↔ name ∈ (files.flatMap Bucket.ui).map Binding.localName

theorem holds_nil : Holds [] {} :=
  ⟨rfl, rfl, rfl, fun _ => Iff.rfl⟩

/-- A binding from the UI library is added if its name has not come yet, and then it has come. -/
theorem addUi_eq (g : Gathering) (b : Binding) :
    (g.addUi b).bucket = { g.bucket with ui := g.bucket.ui ++ Bucket.firstOfEach g.seen [b] } ∧
      ∀ name, name ∈ (g.addUi b).seen ↔ name = b.localName ∨ name ∈ g.seen := by
  rw [addUi, Bucket.firstOfEach]
  split
  · rename_i hseen
    refine ⟨by rw [Bucket.firstOfEach, List.append_nil], fun name => ?_⟩
    exact (or_iff_right_of_imp fun h => h ▸ hseen).symm
  · exact ⟨rfl, fun name => List.mem_cons⟩

/-- The bindings of a file from the UI library, added one after the other. -/
theorem foldl_addUi (g : Gathering) (bs : List Binding) :
    (bs.foldl addUi g).bucket =
        { g.bucket with ui := g.bucket.ui ++ Bucket.firstOfEach g.seen bs } ∧
      ∀ name, name ∈ (bs.foldl addUi g).seen ↔
        name ∈ bs.map Binding.localName ∨ name ∈ g.seen := by
  induction bs generalizing g with
  | nil => simp [Bucket.firstOfEach]
  | cons b bs ih =>
    obtain ⟨hbucket, hseen⟩ := addUi_eq g b
    obtain ⟨hbuckets, hall⟩ := ih (g.addUi b)
    rw [List.foldl_cons]
    refine ⟨?_, fun name => ?_⟩
    · have hcongr : Bucket.firstOfEach (g.addUi b).seen bs =
          Bucket.firstOfEach (b.localName :: g.seen) bs :=
        Bucket.firstOfEach_congr (fun name => (hseen name).trans List.mem_cons.symm) bs
      have happend := Bucket.firstOfEach_append g.seen [b] bs
      rw [List.singleton_append] at happend
      rw [hbuckets, hbucket, hcongr, happend, List.append_assoc]
      rfl
    · rw [hall, hseen, List.map_cons, List.mem_cons, or_left_comm, or_assoc]

/-- **What is known is kept by each further file.** -/
theorem Holds.addFile (h : Holds files g) (file : Bucket) :
    Holds (files ++ [file]) (g.addFile file) := by
  obtain ⟨hbucket, hseen⟩ := foldl_addUi g file.ui
  refine ⟨?_, ?_, ?_, fun name => ?_⟩
  · rw [Gathering.addFile, hbucket, h.ui, List.flatMap_append, Bucket.firstOfEach_append,
      List.append_nil, List.flatMap_singleton, Bucket.firstOfEach_congr h.seen]
  · rw [Gathering.addFile, hbucket, h.nearby, List.flatMap_append, List.flatMap_singleton]
  · rw [Gathering.addFile, hbucket, h.elsewhere, List.flatMap_append, List.flatMap_singleton]
  · rw [List.flatMap_append, List.flatMap_singleton, List.map_append, List.mem_append, ← h.seen,
      or_comm]
    exact hseen name

/-- The bindings of the sources without queries, source by source. -/
def filesOf (paths : Table Text) (entries : List (Text × Text)) : List Bucket :=
  (entries.filter fun e => !Bucket.isQuery e.1).map fun e =>
    Bucket.ofFile ((paths.get? e.1).getD e.1) e.2

/-- **What is known is kept over any sources.** -/
theorem Holds.foldl_addSource (h : Holds files g) (paths : Table Text)
    (entries : List (Text × Text)) :
    Holds (files ++ filesOf paths entries) (entries.foldl (addSource paths) g) := by
  induction entries generalizing files g with
  | nil => rwa [filesOf, List.filter_nil, List.map_nil, List.append_nil]
  | cons e entries ih =>
    rw [List.foldl_cons, addSource, filesOf, List.filter_cons]
    cases hquery : Bucket.isQuery e.1 with
    | true => exact ih h
    | false =>
      have hnext := ih (h.addFile (Bucket.ofFile ((paths.get? e.1).getD e.1) e.2))
      rwa [List.append_assoc] at hnext

end Gathering

namespace Bucket

/-- The bindings of several files together. -/
def merge (files : List Bucket) : Bucket where
  ui := firstOfEach [] (files.flatMap ui)
  nearby := files.flatMap nearby
  elsewhere := files.flatMap elsewhere

/-- What is gathered from sources, without the loop. -/
theorem ofSources_eq (sources paths : Table Text) :
    ofSources sources paths = merge (Gathering.filesOf paths sources.entries) := by
  have h := Gathering.holds_nil.foldl_addSource paths sources.entries
  rw [List.nil_append] at h
  rw [ofSources, merge, ← h.ui, ← h.nearby, ← h.elsewhere]

/-- What is known of the bindings of several sources. -/
structure Together (sources paths : Table Text) (bucket : Bucket) : Prop where
  /-- Of the bindings from the UI library those are dropped whose local names occur before, in the
  same file or in one in front of it. -/
  ui : bucket.ui = firstOnes ((Gathering.filesOf paths sources.entries).flatMap Bucket.ui)
  /-- No local name is left twice. -/
  once : (bucket.ui.map Binding.localName).Nodup
  /-- No local name is lost. -/
  names : ∀ name, name ∈ bucket.ui.map Binding.localName ↔
    name ∈ ((Gathering.filesOf paths sources.entries).flatMap Bucket.ui).map Binding.localName
  /-- The bindings from files nearby are those of the files, in order, -/
  nearby : bucket.nearby = (Gathering.filesOf paths sources.entries).flatMap Bucket.nearby
  /-- and so are those from other modules. -/
  elsewhere : bucket.elsewhere = (Gathering.filesOf paths sources.entries).flatMap Bucket.elsewhere

/-- **The bindings of several sources**, whatever the sources are. -/
theorem together (sources paths : Table Text) :
    Together sources paths (ofSources sources paths) := by
  rw [ofSources_eq]
  refine ⟨firstOfEach_eq _, nodup_firstOfEach [] _, fun name => ?_, rfl, rfl⟩
  exact mem_names_firstOfEach.trans (and_iff_left List.not_mem_nil)

/-- **Bindings fall into groups**, and those of several sources are put together group by group. -/
theorem classified :
    (∀ libraries bindings, Sorted libraries bindings (ofBindings libraries bindings)) ∧
      ∀ sources paths, Together sources paths (ofSources sources paths) :=
  ⟨sorted, together⟩

end Bucket

end UiHarness
