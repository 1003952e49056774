import UiHarness.Proofs.Hook.Insertion
import UiHarness.Proofs.Hook.Progress
import UiHarness.Proofs.Table

/-!
# What giving hooks does to a unit

The sources of a unit are given their hooks one after the other, and what became of each depends on
the unit as it was at the beginning, not on the others.

* `Hook.Rewritten`: what became of a source that was changed.
* `Hook.Kept`: what is known of the progress after any number of sources.
* `Hook.exists_mayChange`: which sources may be changed.
* `Hook.Outcome`: a unit with some of its sources changed, and the paths of these.
-/

namespace UiHarness.Hook

/-- What became of a source that was changed: its path, and what came of its text. -/
structure Rewritten (u : UiUnit) (name path : Text) (t : Transform) : Prop where
  located : u.paths.get? name = some path
  source : ∃ code, u.sources.get? name = some code ∧
    transform (policiesOf u) u.sectionId path false code = .ok t
  changed : t.isModified = true

/-- A source is changed in one way only. -/
theorem Rewritten.unique {u : UiUnit} {name path path' : Text} {t t' : Transform}
    (h : Rewritten u name path t) (h' : Rewritten u name path' t') : path = path' ∧ t = t' := by
  have hpath := h.located
  rw [h'.located] at hpath
  obtain rfl := Option.some.inj hpath
  obtain ⟨code, hcode, ht⟩ := h.source
  obtain ⟨code', hcode', ht'⟩ := h'.source
  rw [hcode] at hcode'
  obtain rfl := Option.some.inj hcode'
  rw [ht] at ht'
  exact ⟨rfl, Except.ok.inj ht'⟩

/-- The hooks of a changed source stand in its new text. -/
theorem Rewritten.scattered {u : UiUnit} {name path code : Text} {t : Transform}
    (h : Rewritten u name path t) (hcode : u.sources.get? name = some code) :
    Scattered (t.suggestions.map fun s => attributeText s.id) code t.code := by
  obtain ⟨code', hcode', ht⟩ := h.source
  rw [hcode] at hcode'
  obtain rfl := Option.some.inj hcode'
  exact (transform_scattered ht h.changed).2

/-- A changed source was given hooks. -/
theorem Rewritten.suggestions_ne_nil {u : UiUnit} {name path : Text} {t : Transform}
    (h : Rewritten u name path t) : t.suggestions ≠ [] := by
  obtain ⟨code, -, ht⟩ := h.source
  obtain ⟨nodes, hread⟩ := read_of_transform ht
  rw [transform_eq hread] at ht
  obtain rfl := Except.ok.inj ht
  intro hnone
  have hm := h.changed
  dsimp only at hnone hm
  rw [hnone] at hm
  cases hm

/-! ## 1.  One source -/

/-- What is known of the progress: the changed sources are those with a new text, which is the one
that came of them. -/
structure Kept (u : UiUnit) (p : Progress) : Prop where
  modified : ∀ path ∈ p.summary.modified, ∃ name t, Rewritten u name path t ∧
    p.updates.get? name = some t.code
  updates : ∀ name code, p.updates.get? name = some code → ∃ path t, Rewritten u name path t ∧
    code = t.code ∧ path ∈ p.summary.modified

theorem kept_empty (u : UiUnit) : Kept u {} :=
  ⟨fun _ h => absurd h List.not_mem_nil, fun _ _ h => by cases h⟩

/-- A source that was not changed adds nothing to what is known. -/
theorem Kept.add_of_not_isModified {u : UiUnit} {p : Progress} {trial : Bool} {name path : Text}
    {t : Transform} (h : Kept u p) (hm : t.isModified = false) :
    Kept u (p.add trial name path t) := by
  have hmodified : (p.add trial name path t).summary.modified = p.summary.modified := by
    simp only [Progress.add, hm, Bool.false_eq_true, if_false]
  have hupdates : (p.add trial name path t).updates = p.updates := by
    simp only [Progress.add, hm, Bool.false_eq_true, if_false]
  refine ⟨?_, ?_⟩
  · rw [hmodified, hupdates]
    exact h.modified
  · rw [hmodified, hupdates]
    exact h.updates

theorem Kept.add {u : UiUnit} {p : Progress} {trial : Bool} {name path : Text} {t : Transform}
    (h : Kept u p) (ht : Rewritten u name path t) : Kept u (p.add trial name path t) := by
  have hmodified : (p.add trial name path t).summary.modified = p.summary.modified ++ [path] := by
    simp only [Progress.add, ht.changed, if_true]
  have hupdates : (p.add trial name path t).updates = p.updates.insert name t.code := by
    simp only [Progress.add, ht.changed, if_true]
  refine ⟨fun path' hpath => ?_, fun name' code hcode => ?_⟩
  · rw [hmodified, List.mem_append, List.mem_singleton] at hpath
    rw [hupdates]
    rcases hpath with hpath | rfl
    · obtain ⟨name', t', ht', hcode⟩ := h.modified path' hpath
      refine ⟨name', t', ht', ?_⟩
      rw [Table.get?_insert]
      split
      · rename_i hname
        rw [(ht.unique (hname ▸ ht')).2]
      · exact hcode
    · exact ⟨name, t, ht, by rw [Table.get?_insert, if_pos rfl]⟩
  · rw [hupdates, Table.get?_insert] at hcode
    rw [hmodified]
    split at hcode
    · rename_i hname
      exact ⟨path, t, hname ▸ ht, (Option.some.inj hcode).symm,
        List.mem_append_right _ (List.mem_singleton_self _)⟩
    · obtain ⟨path', t', ht', hc, hpath⟩ := h.updates name' code hcode
      exact ⟨path', t', ht', hc, List.mem_append_left _ hpath⟩

/-- **What is known is kept by each source.** -/
theorem Kept.after {u : UiUnit} {trial required : Bool} {p p' : Progress} {name : Text}
    (h : Kept u p) (hp : p.after u trial required name = .ok p') : Kept u p' := by
  rcases after_cases hp with ⟨-, rfl⟩ | ⟨path, code, hpath, hcode, hrest⟩
  · exact h
  · rcases hrest with ⟨-, rfl, -⟩ | ⟨t, ht, ⟨-, rfl⟩ | rfl⟩
    · exact h
    · exact h
    · cases hm : t.isModified with
      | false => exact h.add_of_not_isModified hm
      | true =>
        obtain ⟨rfl, -⟩ := transform_scattered ht hm
        exact h.add ⟨hpath, ⟨code, hcode, ht⟩, hm⟩

/-! ## 2.  All sources -/

/-- What is known in the end. -/
theorem kept_of_result {u : UiUnit} {trial : Bool} {p : Progress} (h : result u trial = .ok p) :
    Kept u p := by
  obtain ⟨p', hprimary, hothers⟩ := Except.bind_eq_ok.1 h
  exact Except.foldlM_induction (fun _ _ _ _ hb hstep => hb.after hstep)
    (Except.foldlM_induction (fun _ _ _ _ hb hstep => hb.after hstep) (kept_empty u) hprimary)
    hothers

/-- The sources of a unit that may be given hooks: the primary ones, and the components that belong to
the unit without being primary. -/
def MayChange (u : UiUnit) (name : Text) : Prop :=
  name ∈ primarySources u ∨
    name ∈ u.sources.keys ∧ name ∉ plainSources.map String.toList ∧
      Text.endsWith name ".gql" = false ∧ Text.startsWith name "ui/" = false

theorem mayChange_of_isComponentSource {u : UiUnit} {name : Text} (hname : name ∈ u.sources.keys)
    (h : isComponentSource (primarySources u) name = true) : MayChange u name := by
  simp only [isComponentSource, Bool.and_eq_true, decide_eq_true_eq, Bool.not_eq_true'] at h
  exact .inr ⟨hname, h.1.1.2, h.1.2, h.2⟩

/-- A path that is new among the changed ones is that of the source that was come to. -/
theorem modified_of_after {u : UiUnit} {trial required : Bool} {p p' : Progress} {name path : Text}
    (h : p.after u trial required name = .ok p') (hpath : path ∈ p'.summary.modified) :
    path ∈ p.summary.modified ∨ u.paths.get? name = some path := by
  rcases after_cases h with ⟨-, rfl⟩ | ⟨path', code, hpath', -, hrest⟩
  · exact .inl hpath
  · rcases hrest with ⟨-, rfl, -⟩ | ⟨t, -, ⟨-, rfl⟩ | rfl⟩
    · exact .inl hpath
    · exact .inl hpath
    · simp only [Progress.add] at hpath
      split at hpath
      · rcases List.mem_append.1 hpath with hpath | hpath
        · exact .inl hpath
        · rw [List.mem_singleton.1 hpath]
          exact .inr hpath'
      · exact .inl hpath

/-- **Only paths of sources that may be given hooks** are among the changed ones. -/
theorem exists_mayChange {u : UiUnit} {trial : Bool} {p : Progress} (h : result u trial = .ok p) :
    ∀ path ∈ p.summary.modified, ∃ name, MayChange u name ∧ u.paths.get? name = some path := by
  obtain ⟨p', hprimary, hothers⟩ := Except.bind_eq_ok.1 h
  let Known (p : Progress) : Prop :=
    ∀ path ∈ p.summary.modified, ∃ name, MayChange u name ∧ u.paths.get? name = some path
  have hstep {name : Text} {required : Bool} (hname : MayChange u name) (p p' : Progress)
      (hp : Known p) (hp' : p.after u trial required name = .ok p') : Known p' := by
    intro path hpath
    rcases modified_of_after hp' hpath with hpath | hpath
    · exact hp path hpath
    · exact ⟨name, hname, hpath⟩
  refine Except.foldlM_induction (P := Known) (fun name hname => hstep ?_)
    (Except.foldlM_induction (P := Known) (fun name hname => hstep (.inl hname)) ?_ hprimary) hothers
  · obtain ⟨hmem, hcomponent⟩ := List.mem_filter.1 hname
    exact mayChange_of_isComponentSource hmem hcomponent
  · exact fun _ hpath => absurd hpath List.not_mem_nil

/-- A unit after its sources were given hooks: which of them were changed, and what the sources
hold now. -/
structure Outcome (u u' : UiUnit) (modified : List Text) : Prop where
  facts : u'.kind = u.kind ∧ u'.name = u.name ∧ u'.category = u.category
  paths : u'.paths = u.paths
  rewritten : ∀ path ∈ modified, ∃ name t, Rewritten u name path t ∧
    u'.sources.get? name = some t.code
  sources : ∀ name code, u.sources.get? name = some code → ∃ code',
    u'.sources.get? name = some code' ∧
      (code' = code ∨ ∃ path t, Rewritten u name path t ∧ code' = t.code ∧ path ∈ modified)

/-- If nothing is done, nothing is changed. -/
theorem outcome_refl (u : UiUnit) : Outcome u u [] :=
  ⟨⟨rfl, rfl, rfl⟩, rfl, fun _ h => absurd h List.not_mem_nil,
    fun _ code h => ⟨code, h, .inl rfl⟩⟩

/-- The texts of a unit with other texts of some sources. -/
theorem get?_updated (u : UiUnit) (updates : Table Text) (name : Text) :
    (u.updated updates).sources.get? name =
      (u.sources.get? name).map fun code => (updates.get? name).getD code :=
  Table.get?_mapKeyed _ u.sources name

theorem Kept.outcome {u : UiUnit} {p : Progress} (h : Kept u p) :
    Outcome u (u.updated p.updates) p.summary.modified := by
  refine ⟨⟨rfl, rfl, rfl⟩, rfl, fun path hpath => ?_, fun name code hcode => ?_⟩
  · obtain ⟨name, t, ht, hcode⟩ := h.modified path hpath
    obtain ⟨old, hold, -⟩ := ht.source
    exact ⟨name, t, ht, by rw [get?_updated, hold, Option.map_some, hcode, Option.getD_some]⟩
  · rw [get?_updated, hcode, Option.map_some]
    cases hu : p.updates.get? name with
    | none => exact ⟨code, by rw [Option.getD_none], .inl rfl⟩
    | some code' =>
      obtain ⟨path, t, ht, hc, hpath⟩ := h.updates name code' hu
      exact ⟨code', by rw [Option.getD_some], .inr ⟨path, t, ht, hc, hpath⟩⟩

end UiHarness.Hook
