import Mathlib.Data.List.Nodup
import Mathlib.Algebra.BigOperators.Group.List.Basic
import Mathlib.Algebra.GroupWithZero.Nat
import UiHarness.Proofs.Hook.Injection

/-!
# The account of the hooks in a unit

While a unit is given its hooks, four things are written down for each source that is come to: a
report, the counts, the path if the text was changed, and the new text.  They agree with each other
because nothing that is written down depends on what was written down before.  What becomes of a
source is a function of the unit and of the name of the source.

So the run comes apart.  Its outcome is decided by the first primary source that cannot be read, and
if there is none, by a list of names: the progress is what the sources of these names add up to.

* `Hook.look`, `Hook.hooksOf`: what is read of a source, and the hooks that are planned for it.
* `Hook.result_eq`: what comes of a unit, in one equation.
* `Hook.Account`: what the summary, the reports and the new sources say of each other.
* `Hook.accounted_of_inject`: the account of every run that succeeds.
-/

namespace UiHarness

/-- Sums over two lists without repetition agree if one list has all entries that count. -/
theorem sum_map_eq_of_subset {α : Type} [DecidableEq α] {l l' : List α} {f : α → Nat}
    (hl : l.Nodup) (hl' : l'.Nodup) (hsub : l' ⊆ l) (hnone : ∀ a ∈ l, a ∉ l' → f a = 0) :
    (l.map f).sum = (l'.map f).sum := by
  have hfilter : (l.map f).sum = ((l.filter (· ∈ l')).map f).sum := by
    clear hl hsub
    induction l with
    | nil => rfl
    | cons a l ih =>
      have ih := ih fun b hb => hnone b (List.mem_cons_of_mem _ hb)
      rw [List.filter_cons, List.map_cons, List.sum_cons, ih]
      split
      · rw [List.map_cons, List.sum_cons]
      · rename_i ha
        rw [decide_eq_true_eq] at ha
        rw [hnone a (List.mem_cons_self ..) ha, Nat.zero_add]
  have hperm : (l.filter (· ∈ l')).Perm l' := by
    refine (List.perm_ext_iff_of_nodup (hl.filter _) hl').2 fun a => ?_
    rw [List.mem_filter, decide_eq_true_eq]
    exact and_iff_right_of_imp fun ha => hsub ha
  rw [hfilter, (hperm.map f).sum_eq]

namespace Hook

open Syntax

/-! ## 1.  What is seen of a source -/

/-- What is read of a source of a unit.  Without text or path nothing is. -/
def look (u : UiUnit) (name : Text) : Option (Except SyntaxError (List Node)) :=
  let code := (u.sources.get? name).getD []
  let path := (u.paths.get? name).getD []
  if code.isEmpty || path.isEmpty then none else some (Syntax.read path code)

/-- The hooks that are planned for a source. -/
def hooksOf (u : UiUnit) (name : Text) : List Suggestion :=
  match look u name with
  | some (.ok nodes) => plan { nodes } u.sectionId (policiesOf u)
  | _ => []

/-- What becomes of a source that can be read. -/
def hooked (u : UiUnit) (trial : Bool) (name : Text) : Transform :=
  let code := (u.sources.get? name).getD []
  { code := if trial then code else Text.weave (textAt (hooksOf u name)) 0 code
    suggestions := hooksOf u name
    applied := if trial then 0 else (hooksOf u name).length
    isModified := !trial && !(hooksOf u name).isEmpty }

/-- The report on a source. -/
def reportOf (u : UiUnit) (trial : Bool) (name : Text) : SourceReport :=
  { name
    path := (u.paths.get? name).getD []
    suggestions := (hooksOf u name).length
    applied := (hooked u trial name).applied
    isModified := (hooked u trial name).isModified }

/-- The progress with what became of one more source. -/
def Progress.note (u : UiUnit) (trial : Bool) (p : Progress) (name : Text) : Progress :=
  p.add trial name ((u.paths.get? name).getD []) (hooked u trial name)

variable {u : UiUnit} {trial : Bool} {name : Text}

theorem not_isEmpty_iff {code path : Text} :
    ¬ (code.isEmpty || path.isEmpty) = true ↔ code ≠ [] ∧ path ≠ [] := by
  rw [Bool.or_eq_true, not_or, List.isEmpty_iff, List.isEmpty_iff]

theorem look_eq_some_iff {r : Except SyntaxError (List Node)} :
    look u name = some r ↔ ∃ code path, u.sources.get? name = some code ∧
      u.paths.get? name = some path ∧ code ≠ [] ∧ path ≠ [] ∧ Syntax.read path code = r := by
  unfold look
  dsimp only
  constructor
  · intro h
    split at h
    · cases h
    · rename_i hempty
      rw [not_isEmpty_iff] at hempty
      cases hcode : u.sources.get? name with
      | none => exact absurd (by rw [hcode]; rfl) hempty.1
      | some code =>
        cases hpath : u.paths.get? name with
        | none => exact absurd (by rw [hpath]; rfl) hempty.2
        | some path =>
          rw [hcode, hpath, Option.getD_some, Option.getD_some] at hempty h
          exact ⟨code, path, rfl, rfl, hempty.1, hempty.2, Option.some.inj h⟩
  · rintro ⟨code, path, hcode, hpath, hne, hne', hread⟩
    rw [hcode, hpath, Option.getD_some, Option.getD_some,
      if_neg (not_isEmpty_iff.2 ⟨hne, hne'⟩), hread]

theorem hooksOf_of_look {nodes : List Node} (h : look u name = some (.ok nodes)) :
    hooksOf u name = plan { nodes } u.sectionId (policiesOf u) := by
  unfold hooksOf
  rw [h]

/-- **What one more source brings about**, by what is read of it. -/
theorem after_eq (u : UiUnit) (trial required : Bool) (p : Progress) (name : Text) :
    p.after u trial required name =
      match look u name with
      | none => .ok p
      | some (.error e) => if required then .error (.source e) else .ok p
      | some (.ok _) =>
        .ok (if !required && (hooksOf u name).isEmpty then p else p.note u trial name) := by
  cases hlook : look u name with
  | none =>
    unfold look at hlook
    unfold Progress.after
    dsimp only at hlook ⊢
    split at hlook
    · rename_i hempty
      rw [if_pos hempty]
    · cases hlook
  | some r =>
    obtain ⟨code, path, hcode, hpath, hne, hne', hread⟩ := look_eq_some_iff.1 hlook
    have hempty : ¬ (code.isEmpty || path.isEmpty) = true := not_isEmpty_iff.2 ⟨hne, hne'⟩
    cases r with
    | error e =>
      have htransform : transform (policiesOf u) u.sectionId path trial code =
          .error (.source e) := by
        unfold transform
        rw [hread]
      rw [Progress.after, hcode, hpath, Option.getD_some, Option.getD_some, if_neg hempty,
        htransform]
    | ok nodes =>
      have htransform : transform (policiesOf u) u.sectionId path trial code =
          .ok (hooked u trial name) := by
        rw [transform_eq hread, hooked, hooksOf_of_look hlook, hcode, Option.getD_some]
      have hsuggestions : (hooked u trial name).suggestions = hooksOf u name := rfl
      rw [Progress.after, hcode, hpath, Option.getD_some, Option.getD_some, if_neg hempty,
        htransform]
      dsimp only
      rw [hsuggestions, Progress.note, hpath, Option.getD_some]
      split
      · rfl
      · rfl

/-! ## 2.  All sources -/

/-- The mistake in a source that cannot be read. -/
def mistake? (u : UiUnit) (name : Text) : Option SyntaxError :=
  match look u name with
  | some (.error e) => some e
  | _ => none

/-- Whether a source is reported: it can be read, and has hooks unless it is required. -/
def isReported (u : UiUnit) (required : Bool) (name : Text) : Bool :=
  match look u name with
  | some (.ok _) => required || !(hooksOf u name).isEmpty
  | _ => false

/-- The components that belong to a unit without being primary, in the order of its sources. -/
def componentSources (u : UiUnit) : List Text :=
  u.sources.keys.filter (isComponentSource (primarySources u))

/-- The names of the sources that are reported. -/
def reported (u : UiUnit) : List Text :=
  (primarySources u).filter (isReported u true) ++ (componentSources u).filter (isReported u false)

theorem mistake?_eq_some_iff {e : SyntaxError} :
    mistake? u name = some e ↔ look u name = some (.error e) := by
  unfold mistake?
  split
  · rename_i e' hlook
    rw [hlook, Option.some.injEq, Option.some.injEq, Except.error.injEq]
  · rename_i hlook
    exact ⟨fun h => (by cases h), fun h => absurd h (hlook e)⟩

/-- A run over components never fails, and adds up those that are reported. -/
theorem foldlM_after_component (u : UiUnit) (trial : Bool) (names : List Text) (p : Progress) :
    names.foldlM (Progress.after u trial false) p =
      .ok ((names.filter (isReported u false)).foldl (Progress.note u trial) p) := by
  induction names generalizing p with
  | nil => rfl
  | cons name names ih =>
    rw [List.foldlM_cons, after_eq, List.filter_cons, isReported]
    cases look u name with
    | none => exact ih p
    | some r =>
      cases r with
      | error e => exact ih p
      | ok nodes =>
        cases (hooksOf u name).isEmpty with
        | true => exact ih p
        | false => exact ih (p.note u trial name)

/-- A run over primary sources fails at the first one that cannot be read; else it adds up all that
can. -/
theorem foldlM_after_primary (u : UiUnit) (trial : Bool) (names : List Text) (p : Progress) :
    names.foldlM (Progress.after u trial true) p =
      match names.findSome? (mistake? u) with
      | some e => .error (.source e)
      | none => .ok ((names.filter (isReported u true)).foldl (Progress.note u trial) p) := by
  induction names generalizing p with
  | nil => rfl
  | cons name names ih =>
    rw [List.foldlM_cons, after_eq, List.filter_cons, List.findSome?_cons, mistake?, isReported]
    cases look u name with
    | none => exact ih p
    | some r =>
      cases r with
      | error e => rfl
      | ok nodes => exact ih (p.note u trial name)

/-- **What comes of a unit**: the mistake in the first primary source that has one, or else what the
sources that are reported add up to. -/
theorem result_eq (u : UiUnit) (trial : Bool) : result u trial =
    match (primarySources u).findSome? (mistake? u) with
    | some e => .error (.source e)
    | none => .ok ((reported u).foldl (Progress.note u trial) {}) := by
  rw [result, foldlM_after_primary]
  cases (primarySources u).findSome? (mistake? u) with
  | some e => rfl
  | none =>
    rw [reported, List.foldl_append]
    exact foldlM_after_component u trial (componentSources u) _

/-! ## 3.  What the sources add up to -/

theorem reports_foldl_note (u : UiUnit) (trial : Bool) (names : List Text) (p : Progress) :
    (names.foldl (Progress.note u trial) p).reports =
      p.reports ++ names.map (reportOf u trial) := by
  induction names generalizing p with
  | nil => exact (List.append_nil _).symm
  | cons name names ih =>
    have hstep : (p.note u trial name).reports = p.reports ++ [reportOf u trial name] := rfl
    rw [List.foldl_cons, ih, hstep, List.append_assoc, List.singleton_append, List.map_cons]

/-- All hooks are applied, so that none of them fails. -/
theorem summary_note (u : UiUnit) (trial : Bool) (p : Progress) (name : Text) :
    (p.note u trial name).summary = { p.summary with
      applied := p.summary.applied + (reportOf u trial name).applied
      modified := p.summary.modified ++
        ([reportOf u trial name].filter (·.isModified)).map (·.path) } := by
  have hfailed : (if trial then p.summary.failed else
      p.summary.failed + ((hooked u trial name).suggestions.length -
        (hooked u trial name).applied)) = p.summary.failed := by
    cases trial with
    | true => rfl
    | false =>
      have happlied : (hooked u false name).applied =
          (hooked u false name).suggestions.length := rfl
      rw [happlied, Nat.sub_self]
      rfl
  have hmodified : (reportOf u trial name).isModified = (hooked u trial name).isModified := rfl
  rw [Progress.note, Progress.add, hfailed, List.filter_singleton, hmodified]
  cases (hooked u trial name).isModified with
  | true => rfl
  | false =>
    simp only [Bool.false_eq_true, if_false, cond_false, List.map_nil, List.append_nil]
    rfl

theorem summary_foldl_note (u : UiUnit) (trial : Bool) (names : List Text) (p : Progress) :
    (names.foldl (Progress.note u trial) p).summary = { p.summary with
      applied := p.summary.applied + ((names.map (reportOf u trial)).map (·.applied)).sum
      modified := p.summary.modified ++
        ((names.map (reportOf u trial)).filter (·.isModified)).map (·.path) } := by
  induction names generalizing p with
  | nil =>
    simp only [List.foldl_nil, List.map_nil, List.sum_nil, Nat.add_zero, List.filter_nil,
      List.append_nil]
  | cons name names ih =>
    rw [List.foldl_cons, ih, summary_note]
    simp only [List.map_cons, List.sum_cons, Nat.add_assoc, List.append_assoc]
    rw [← List.map_append, ← List.filter_append, List.singleton_append]

/-- The new text of a source is written down if it was changed. -/
theorem updates_note (u : UiUnit) (trial : Bool) (p : Progress) (name key : Text) :
    (p.note u trial name).updates.get? key =
      if name = key ∧ (hooked u trial key).isModified = true then some (hooked u trial key).code
      else p.updates.get? key := by
  rw [Progress.note, Progress.add]
  dsimp only
  by_cases hname : name = key
  · subst hname
    by_cases hmodified : (hooked u trial name).isModified = true
    · rw [if_pos hmodified, Table.get?_insert, if_pos rfl, if_pos ⟨rfl, hmodified⟩]
    · rw [if_neg hmodified, if_neg fun h => hmodified h.2]
  · have hother : ¬ (name = key ∧ (hooked u trial key).isModified = true) := fun h => hname h.1
    rw [if_neg hother]
    split
    · rw [Table.get?_insert, if_neg hname]
    · rfl

/-- The new texts are those of the sources that were changed. -/
theorem updates_foldl_note (u : UiUnit) (trial : Bool) (names : List Text) (p : Progress)
    (key : Text) : (names.foldl (Progress.note u trial) p).updates.get? key =
      if key ∈ names ∧ (hooked u trial key).isModified = true then some (hooked u trial key).code
      else p.updates.get? key := by
  induction names generalizing p with
  | nil => rw [List.foldl_nil, if_neg fun h => List.not_mem_nil h.1]
  | cons name names ih =>
    rw [List.foldl_cons, ih, updates_note]
    by_cases hmodified : (hooked u trial key).isModified = true
    · by_cases hkey : key ∈ names
      · rw [if_pos ⟨hkey, hmodified⟩, if_pos ⟨List.mem_cons_of_mem _ hkey, hmodified⟩]
      · have hmem : key ∈ name :: names ↔ name = key := by
          rw [List.mem_cons, or_iff_left hkey, eq_comm]
        rw [if_neg fun h => hkey h.1]
        simp only [hmem]
    · rw [if_neg fun h => hmodified h.2, if_neg fun h => hmodified h.2,
        if_neg fun h => hmodified h.2]

/-- **What comes of a unit**, as far as it is told. -/
theorem inject_eq (u : UiUnit) (trial verbose : Bool) : (inject u trial verbose).outcome.2 =
    match (primarySources u).findSome? (mistake? u) with
    | some e => .error (.source e)
    | none =>
      .ok (u.updated ((reported u).foldl (Progress.note u trial) {}).updates,
        { applied := (((reported u).map (reportOf u trial)).map (·.applied)).sum
          modified := (((reported u).map (reportOf u trial)).filter (·.isModified)).map (·.path)
          method := .fromSyntax },
        (reported u).map (reportOf u trial)) := by
  rw [(inject_ends u trial verbose).outcome, result_eq]
  cases (primarySources u).findSome? (mistake? u) with
  | some e => rfl
  | none =>
    have hsummary := summary_foldl_note u trial (reported u) {}
    have hreports := reports_foldl_note u trial (reported u) {}
    dsimp only at hsummary hreports ⊢
    rw [Nat.zero_add, List.nil_append] at hsummary
    rw [List.nil_append] at hreports
    change Except.ok (_, _, _) = _
    rw [hsummary, hreports]

/-! ## 4.  The account -/

theorem nodup_primarySources (u : UiUnit) : (primarySources u).Nodup := by
  unfold primarySources
  split
  · split
    · exact List.nodup_singleton _
    · exact List.nodup_singleton _
  · decide

theorem look_of_mem_reported (h : name ∈ reported u) : ∃ nodes, look u name = some (.ok nodes) := by
  have hreported : ∃ required, isReported u required name = true := by
    rcases List.mem_append.1 h with h | h
    · exact ⟨true, (List.mem_filter.1 h).2⟩
    · exact ⟨false, (List.mem_filter.1 h).2⟩
  obtain ⟨required, hreported⟩ := hreported
  unfold isReported at hreported
  split at hreported
  · rename_i nodes hlook
    exact ⟨nodes, hlook⟩
  · cases hreported

theorem mem_keys_of_mem_reported (h : name ∈ reported u) : name ∈ u.sources.keys := by
  obtain ⟨nodes, hlook⟩ := look_of_mem_reported h
  obtain ⟨code, -, hcode, -⟩ := look_eq_some_iff.1 hlook
  exact List.mem_map_of_mem (Table.get?_eq_some.1 hcode)

/-- A source that is reported is primary or a component. -/
theorem primary_or_component_of_mem_reported (h : name ∈ reported u) :
    name ∈ primarySources u ∨ isComponentSource (primarySources u) name = true := by
  rcases List.mem_append.1 h with h | h
  · exact .inl (List.mem_of_mem_filter h)
  · exact .inr (List.mem_filter.1 (List.mem_of_mem_filter h)).2

/-- No source is reported twice: a component is not primary. -/
theorem nodup_reported (u : UiUnit) : (reported u).Nodup := by
  have hkeys : u.sources.keys.Nodup := u.sources.nodup
  have hcomponents : (componentSources u).Nodup := hkeys.filter _
  refine List.nodup_append.2
    ⟨(nodup_primarySources u).filter _, hcomponents.filter _, fun a ha b hb hab => ?_⟩
  have hprimary : a ∈ primarySources u := List.mem_of_mem_filter ha
  have hcomponent := (List.mem_filter.1 (List.mem_of_mem_filter hb)).2
  simp only [isComponentSource, Bool.and_eq_true, decide_eq_true_eq] at hcomponent
  exact hcomponent.1.1.1 (hab ▸ hprimary)

/-- **The hooks of a source that is reported** are put into its text. -/
theorem scattered_hooked (h : name ∈ reported u) {code : Text}
    (hcode : u.sources.get? name = some code) :
    Scattered (((hooksOf u name).map (·.id)).map attributeText) code (hooked u false name).code := by
  obtain ⟨nodes, hlook⟩ := look_of_mem_reported h
  obtain ⟨code', path, hcode', -, -, -, hread⟩ := look_eq_some_iff.1 hlook
  rw [hcode] at hcode'
  obtain rfl := Option.some.inj hcode'
  have hstands : ∀ s ∈ plan { nodes } u.sectionId (policiesOf u), s.element.StandsIn {} code :=
    fun s hs => textOf_of_read hread ▸ standsIn_of_mem_plan hs
  have hscattered := scattered_of_stands hstands (plan_fits nodes u.sectionId (policiesOf u)).apart
  rw [← hooksOf_of_look hlook] at hscattered
  rw [List.map_map, hooked, hcode, Option.getD_some]
  exact hscattered

/-- A text into which hooks were put is another one. -/
theorem ne_of_scattered {ids : List Text} {before after : Text}
    (h : Scattered (ids.map attributeText) before after) (hids : ids ≠ []) : after ≠ before := by
  rintro rfl
  obtain ⟨id, ids, rfl⟩ := List.exists_cons_of_ne_nil hids
  have hlength := h.length_eq
  have hpos : 0 < (attributeText id).length := by simp [attributeText]
  rw [List.map_cons, List.flatten_cons, List.length_append] at hlength
  omega

/-- A source is changed if hooks are planned for it. -/
theorem isModified_reportOf (u : UiUnit) (name : Text) :
    (reportOf u false name).isModified = true ↔ hooksOf u name ≠ [] := by
  rw [reportOf, hooked, Bool.not_false, Bool.true_and, Bool.not_eq_true', ← Bool.not_eq_true,
    List.isEmpty_iff]

/-- The unit with the hooks in its sources. -/
def hookedUnit (u : UiUnit) : UiUnit :=
  u.updated ((reported u).foldl (Progress.note u false) {}).updates

/-- The texts of a unit after its sources were given hooks. -/
theorem get?_hookedUnit (u : UiUnit) (key : Text) :
    (hookedUnit u).sources.get? key =
      if key ∈ reported u ∧ hooksOf u key ≠ [] then some (hooked u false key).code
      else u.sources.get? key := by
  have hmodified : (hooked u false key).isModified = true ↔ hooksOf u key ≠ [] :=
    isModified_reportOf u key
  have hempty : (({} : Progress).updates.get? key) = none := rfl
  rw [hookedUnit, get?_updated, updates_foldl_note, hempty]
  simp only [hmodified]
  by_cases hchanged : key ∈ reported u ∧ hooksOf u key ≠ []
  · obtain ⟨nodes, hlook⟩ := look_of_mem_reported hchanged.1
    obtain ⟨code, -, hcode, -⟩ := look_eq_some_iff.1 hlook
    rw [if_pos hchanged, if_pos hchanged, hcode, Option.map_some, Option.getD_some]
  · rw [if_neg hchanged, if_neg hchanged]
    cases u.sources.get? key with
    | none => rfl
    | some code => rfl

/-- What the summary, the reports and the new sources of a unit say of each other. -/
structure Account (u u' : UiUnit) (summary : Summary) (reports : List SourceReport) : Prop where
  /-- No source is reported twice. -/
  distinct : (reports.map (·.name)).Nodup
  /-- Primary sources come first, then components, in the order of the sources. -/
  ordered : ∃ primary components, reports.map (·.name) = primary ++ components ∧
    primary.Sublist (primarySources u) ∧ components.Sublist (componentSources u)
  /-- Of the sources that can be read, the primary ones are reported, and the components that get
  hooks. -/
  complete : ∀ name nodes, look u name = some (.ok nodes) →
    name ∈ primarySources u ∨ name ∈ componentSources u ∧ hooksOf u name ≠ [] →
      name ∈ reports.map (·.name)
  /-- A report tells the hooks that were planned, and all of them are applied. -/
  planned : ∀ r ∈ reports, u.paths.get? r.name = some r.path ∧
    r.suggestions = (hooksOf u r.name).length ∧ r.applied = r.suggestions ∧
      (r.isModified = true ↔ hooksOf u r.name ≠ [])
  applied : summary.applied = (reports.map (·.applied)).sum
  failed : summary.failed = 0
  modified : summary.modified = (reports.filter (·.isModified)).map (·.path)
  /-- The planned hooks are put into the sources, for each source as many as its report says, and in
  all as many as the summary says. -/
  inserted : ∃ given : Text → List Text,
    (∀ key code, u.sources.get? key = some code → ∃ code', u'.sources.get? key = some code' ∧
      Scattered ((given key).map attributeText) code code') ∧
    (∀ r ∈ reports, given r.name = (hooksOf u r.name).map (·.id) ∧
      r.applied = (given r.name).length) ∧
    summary.applied = (u.sources.keys.map fun key => (given key).length).sum
  keys : u'.sources.keys = u.sources.keys
  /-- Nothing but the sources is changed. -/
  facts : u'.kind = u.kind ∧ u'.name = u.name ∧ u'.category = u.category ∧ u'.root = u.root ∧
    u'.declaredId = u.declaredId ∧ u'.displayName = u.displayName ∧ u'.paths = u.paths ∧
    u'.route = u.route ∧ u'.tabs = u.tabs ∧ u'.misfits = u.misfits
  /-- The sources that are changed are those that are reported so. -/
  changed : ∀ key, u'.sources.get? key ≠ u.sources.get? key ↔
    ∃ r ∈ reports, r.name = key ∧ r.isModified = true
  /-- Sources from the shared package, queries, and sources without components of the unit stay,
  unless they are primary. -/
  kept : ∀ key, key ∉ primarySources u → Text.startsWith key "ui/" = true ∨
    Text.endsWith key ".gql" = true ∨ key ∈ plainSources.map String.toList →
      u'.sources.get? key = u.sources.get? key

/-- The identifiers of the hooks that a source is given. -/
def given (u : UiUnit) (key : Text) : List Text :=
  if key ∈ reported u then (hooksOf u key).map (·.id) else []

theorem scattered_given {key code : Text} (hcode : u.sources.get? key = some code) :
    ∃ code', (hookedUnit u).sources.get? key = some code' ∧
      Scattered ((given u key).map attributeText) code code' := by
  rw [get?_hookedUnit, given]
  by_cases hmem : key ∈ reported u
  · rw [if_pos hmem]
    by_cases hhooks : hooksOf u key = []
    · have hnone : ¬ (key ∈ reported u ∧ hooksOf u key ≠ []) := fun h => h.2 hhooks
      rw [if_neg hnone, hhooks]
      exact ⟨code, hcode, .refl code⟩
    · rw [if_pos ⟨hmem, hhooks⟩]
      exact ⟨_, rfl, scattered_hooked hmem hcode⟩
  · have hnone : ¬ (key ∈ reported u ∧ hooksOf u key ≠ []) := fun h => hmem h.1
    rw [if_neg hmem, if_neg hnone]
    exact ⟨code, hcode, .refl code⟩

/-- The hooks that are applied are those that the sources are given. -/
theorem sum_applied (u : UiUnit) :
    (((reported u).map (reportOf u false)).map (·.applied)).sum =
      (u.sources.keys.map fun key => (given u key).length).sum := by
  have happlied : ((reported u).map (reportOf u false)).map (·.applied) =
      (reported u).map fun key => (given u key).length := by
    rw [List.map_map]
    refine List.map_congr_left fun key hkey => ?_
    rw [given, if_pos hkey, List.length_map]
    rfl
  have hsum := sum_map_eq_of_subset (f := fun key => (given u key).length) u.sources.nodup
    (nodup_reported u) (fun _ => mem_keys_of_mem_reported) fun key _ hkey => by
      rw [given, if_neg hkey, List.length_nil]
  rw [happlied]
  exact hsum.symm

/-- The sources that are changed are those that hooks are planned for. -/
theorem hookedUnit_ne_iff (u : UiUnit) (key : Text) :
    (hookedUnit u).sources.get? key ≠ u.sources.get? key ↔
      key ∈ reported u ∧ hooksOf u key ≠ [] := by
  rw [get?_hookedUnit]
  by_cases hchanged : key ∈ reported u ∧ hooksOf u key ≠ []
  · obtain ⟨nodes, hlook⟩ := look_of_mem_reported hchanged.1
    obtain ⟨code, -, hcode, -⟩ := look_eq_some_iff.1 hlook
    have hids : (hooksOf u key).map (·.id) ≠ [] := fun h => hchanged.2 (List.map_eq_nil_iff.1 h)
    have hne := ne_of_scattered (scattered_hooked hchanged.1 hcode) hids
    rw [if_pos hchanged, hcode]
    exact iff_of_true (fun h => hne (Option.some.inj h)) hchanged
  · rw [if_neg hchanged]
    exact iff_of_false (fun h => h rfl) hchanged

theorem map_name_reports (u : UiUnit) (trial : Bool) :
    ((reported u).map (reportOf u trial)).map (·.name) = reported u := by
  rw [List.map_map]
  exact List.map_id _

theorem mem_reported {nodes : List Node} (hlook : look u name = some (.ok nodes))
    (h : name ∈ primarySources u ∨ name ∈ componentSources u ∧ hooksOf u name ≠ []) :
    name ∈ reported u := by
  rw [reported, List.mem_append, List.mem_filter, List.mem_filter, isReported, isReported, hlook]
  refine h.imp (fun hprimary => ⟨hprimary, rfl⟩) fun hcomponent => ⟨hcomponent.1, ?_⟩
  dsimp only
  rw [Bool.false_or, Bool.not_eq_true', ← Bool.not_eq_true, List.isEmpty_iff]
  exact hcomponent.2

/-- Sources from the shared package, queries and sources without components are not reported. -/
theorem not_mem_reported {key : Text} (hprimary : key ∉ primarySources u)
    (h : Text.startsWith key "ui/" = true ∨ Text.endsWith key ".gql" = true ∨
      key ∈ plainSources.map String.toList) : key ∉ reported u := by
  intro hmem
  have hcomponent := (primary_or_component_of_mem_reported hmem).resolve_left hprimary
  simp only [isComponentSource, isPackageSource, packageMark, Bucket.isQuery, Bool.and_eq_true,
    decide_eq_true_eq, Bool.not_eq_true'] at hcomponent
  obtain ⟨⟨⟨-, hplain⟩, hquery⟩, hpackage⟩ := hcomponent
  rcases h with h | h | h
  · rw [hpackage] at h
    cases h
  · rw [hquery] at h
    cases h
  · exact hplain h

theorem account_hookedUnit (u : UiUnit) :
    Account u (hookedUnit u)
      { applied := (((reported u).map (reportOf u false)).map (·.applied)).sum
        modified := (((reported u).map (reportOf u false)).filter (·.isModified)).map (·.path)
        method := .fromSyntax }
      ((reported u).map (reportOf u false)) where
  distinct := by
    rw [map_name_reports]
    exact nodup_reported u
  ordered := ⟨_, _, map_name_reports u false, List.filter_sublist, List.filter_sublist⟩
  complete := by
    intro name nodes hlook hname
    rw [map_name_reports]
    exact mem_reported hlook hname
  planned := by
    intro r hr
    obtain ⟨name, hname, rfl⟩ := List.mem_map.1 hr
    obtain ⟨nodes, hlook⟩ := look_of_mem_reported hname
    obtain ⟨-, path, -, hpath, -⟩ := look_eq_some_iff.1 hlook
    have hnamed : (reportOf u false name).name = name := rfl
    have hpathed : (reportOf u false name).path = path := by
      rw [reportOf, hpath, Option.getD_some]
    rw [hnamed, hpathed]
    exact ⟨hpath, rfl, rfl, isModified_reportOf u name⟩
  applied := rfl
  failed := rfl
  modified := rfl
  inserted := by
    refine ⟨given u, fun key code => scattered_given, fun r hr => ?_, sum_applied u⟩
    obtain ⟨name, hname, rfl⟩ := List.mem_map.1 hr
    have hnamed : (reportOf u false name).name = name := rfl
    rw [hnamed, given, if_pos hname, List.length_map]
    exact ⟨rfl, rfl⟩
  keys := Table.keys_mapKeyed _ _
  facts := ⟨rfl, rfl, rfl, rfl, rfl, rfl, rfl, rfl, rfl, rfl⟩
  changed := by
    intro key
    rw [hookedUnit_ne_iff]
    constructor
    · rintro ⟨hmem, hhooks⟩
      exact ⟨_, List.mem_map_of_mem hmem, rfl, (isModified_reportOf u key).2 hhooks⟩
    · rintro ⟨r, hr, rfl, hmodified⟩
      obtain ⟨name, hname, rfl⟩ := List.mem_map.1 hr
      exact ⟨hname, (isModified_reportOf u name).1 hmodified⟩
  kept := by
    intro key hprimary hkind
    rw [get?_hookedUnit, if_neg fun h => not_mem_reported hprimary hkind h.1]

/-- **The account of every run that succeeds** and is no trial. -/
theorem accounted_of_inject {u u' : UiUnit} {verbose : Bool} {summary : Summary}
    {reports : List SourceReport}
    (h : (inject u false verbose).outcome.2 = .ok (u', summary, reports)) :
    Account u u' summary reports := by
  rw [inject_eq] at h
  split at h
  · cases h
  · obtain ⟨rfl, rfl, rfl⟩ := by simpa only [Prod.mk.injEq] using Except.ok.inj h
    exact account_hookedUnit u

/-- A unit with an import in its main source, a component that is nearby, and a source from the
shared package. -/
def sharedUnit : UiUnit := {
  kind := .widget
  name := "Foo"
  category := "target"
  root := "foo"
  declaredId := none
  displayName := none
  sources := Table.ofList [("ui/A".toList, "<A/>".toList), ("Rows".toList, "<A/>".toList),
    ("Body".toList, "import A from \"ui\"; <A/>".toList)]
  paths := Table.ofList [("ui/A".toList, "ui/A.tsx".toList), ("Rows".toList, "foo/Rows.tsx".toList),
    ("Body".toList, "foo/Body.tsx".toList)]
  route := none
  tabs := []
  located := by decide }

/-- The case of this unit: two hooks, the one in the main source reported first. -/
theorem accounted_sharedUnit : ∃ u' summary reports,
    (inject sharedUnit false false).outcome.2 = .ok (u', summary, reports) ∧
      summary.applied = 2 ∧ reports.map (·.name) = ["Body".toList, "Rows".toList] ∧
      Account sharedUnit u' summary reports := by
  have h : (inject sharedUnit false false).outcome.2.toOption.any (fun r => r.2.1.applied = 2 ∧
      r.2.2.map (·.name) = ["Body".toList, "Rows".toList]) = true := by
    decide +kernel
  obtain ⟨⟨u', summary, reports⟩, hinject, hr⟩ := Except.exists_of_any h
  obtain ⟨happlied, hnames⟩ := of_decide_eq_true hr
  exact ⟨u', summary, reports, hinject, happlied, hnames, accounted_of_inject hinject⟩

end Hook

end UiHarness
