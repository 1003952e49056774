import UiHarness.Hook.Injection
import UiHarness.Proofs.Steps

/-!
# The result of giving hooks to a unit

What is reported on the way has no influence on what comes of the sources of a unit.  So the lines
can be left out: what comes of one source is a plain function of the progress, and what comes of
the unit is the result of such functions, one after the other.

* `Hook.Progress.after`: the progress after one more source, and `Hook.injectSource_ends`.
* `Hook.after_cases`: all that may happen at a source.
* `Hook.result`: what comes of all sources, and `Hook.inject_gives_iff`.
-/

namespace UiHarness.Hook

/-- The progress after one more source. -/
def Progress.after (u : UiUnit) (trial required : Bool) (p : Progress) (name : Text) :
    Except Fault Progress :=
  let code := (u.sources.get? name).getD []
  let path := (u.paths.get? name).getD []
  if code.isEmpty || path.isEmpty then .ok p
  else
    match transform (policiesOf u) u.sectionId path trial code with
    | .error (.source e) => if required then .error (.source e) else .ok p
    | .error f => .error f
    | .ok t =>
      if !required && t.suggestions.isEmpty then .ok p else .ok (p.add trial name path t)

theorem injectSource_ends (u : UiUnit) (trial verbose required : Bool) (p : Progress)
    (name : Text) :
    (injectSource u (policiesOf u) trial verbose required p name).Ends
      (p.after u trial required name) := by
  unfold injectSource Progress.after
  dsimp only
  generalize transform (policiesOf u) u.sectionId ((u.paths.get? name).getD []) trial
    ((u.sources.get? name).getD []) = r
  split
  · exact Reporting.ends_pure p
  · cases r with
    | error f =>
      cases f with
      | source e =>
        cases required with
        | true =>
          exact (Reporting.ends_throw _).bind fun _ =>
            (Reporting.ends_sayIf _ _).bind fun _ => Reporting.ends_pure p
        | false => exact (Reporting.ends_sayIf _ _).bind fun _ => Reporting.ends_pure _
      | _ => exact Reporting.ends_throw _
    | ok t =>
      dsimp only
      split
      · exact Reporting.ends_pure p
      · exact (Reporting.ends_forIn (fun s => Reporting.ends_sayIf _ _) t.suggestions).bind
          fun _ => Reporting.ends_pure _

/-- **All that may happen at a source**: there is nothing to do; it cannot be read, which matters
only if it is required; or it is given its hooks, and reported unless that is not needed. -/
theorem after_cases {u : UiUnit} {trial required : Bool} {p p' : Progress} {name : Text}
    (h : p.after u trial required name = .ok p') :
    (((u.sources.get? name).getD [] = [] ∨ (u.paths.get? name).getD [] = []) ∧ p' = p) ∨
      ∃ path code, u.paths.get? name = some path ∧ u.sources.get? name = some code ∧
        ((required = false ∧ p' = p ∧ ∃ e,
            transform (policiesOf u) u.sectionId path trial code = .error (.source e)) ∨
          ∃ t, transform (policiesOf u) u.sectionId path trial code = .ok t ∧
            (t.suggestions = [] ∧ p' = p ∨ p' = p.add trial name path t)) := by
  unfold Progress.after at h
  dsimp only at h
  split at h
  · rename_i hempty
    rw [Bool.or_eq_true, List.isEmpty_iff, List.isEmpty_iff] at hempty
    exact .inl ⟨hempty, (Except.ok.inj h).symm⟩
  · rename_i hempty
    rw [Bool.or_eq_true, not_or, List.isEmpty_iff, List.isEmpty_iff] at hempty
    cases hc : u.sources.get? name with
    | none => exact absurd (by rw [hc]; rfl) hempty.1
    | some code =>
      cases hp : u.paths.get? name with
      | none => exact absurd (by rw [hp]; rfl) hempty.2
      | some path =>
        rw [hc, hp, Option.getD_some, Option.getD_some] at h
        refine .inr ⟨path, code, rfl, rfl, ?_⟩
        split at h
        · rename_i e ht
          split at h
          · cases h
          · rename_i hrequired
            exact .inl ⟨Bool.eq_false_iff.2 hrequired, (Except.ok.inj h).symm, e, ht⟩
        · cases h
        · rename_i t ht
          split at h
          · rename_i hnone
            rw [Bool.and_eq_true, List.isEmpty_iff] at hnone
            exact .inr ⟨t, ht, .inl ⟨hnone.2, (Except.ok.inj h).symm⟩⟩
          · exact .inr ⟨t, ht, .inr (Except.ok.inj h).symm⟩

/-- All that comes of the sources of a unit. -/
def result (u : UiUnit) (trial : Bool) : Except Fault Progress := do
  let p ← (primarySources u).foldlM (Progress.after u trial true) {}
  (u.sources.keys.filter (isComponentSource (primarySources u))).foldlM
    (Progress.after u trial false) p

/-- **What comes of a unit** is the result of its sources, whatever is reported. -/
theorem inject_ends (u : UiUnit) (trial verbose : Bool) :
    (inject u trial verbose).Ends
      (result u trial >>= fun p => .ok (u.updated p.updates, p.summary, p.reports)) := by
  have hprimary := Reporting.ends_foldlM (injectSource_ends u trial verbose true)
    (primarySources u) {}
  have hothers := Reporting.ends_foldlM (injectSource_ends u trial verbose false)
    (u.sources.keys.filter (isComponentSource (primarySources u)))
  have hall := (hprimary.bind hothers).bind
    fun p => Reporting.ends_pure (u.updated p.updates, p.summary, p.reports)
  rw [bind_assoc] at hall
  exact (Reporting.ends_sayIf _ _).bind fun _ => hall

/-- **A unit is given its hooks** exactly if its sources are. -/
theorem inject_gives_iff {u u' : UiUnit} {trial verbose : Bool} {summary : Summary}
    {reports : List SourceReport} :
    (inject u trial verbose).Gives (u', summary, reports) ↔
      ∃ p, result u trial = .ok p ∧ u' = u.updated p.updates ∧ summary = p.summary ∧
        reports = p.reports := by
  rw [(inject_ends u trial verbose).gives_iff, Except.bind_eq_ok]
  constructor
  · rintro ⟨p, hp, heq⟩
    obtain ⟨rfl, rfl, rfl⟩ := by simpa only [Prod.mk.injEq] using Except.ok.inj heq
    exact ⟨p, hp, rfl, rfl, rfl⟩
  · rintro ⟨p, hp, rfl, rfl, rfl⟩
    exact ⟨p, hp, rfl⟩

theorem inject_eq_ok {u u' : UiUnit} {trial verbose : Bool} {summary : Summary}
    {reports : List SourceReport} :
    (inject u trial verbose).outcome.2 = .ok (u', summary, reports) ↔
      ∃ p, result u trial = .ok p ∧ u' = u.updated p.updates ∧ summary = p.summary ∧
        reports = p.reports := by
  have hends := inject_ends u trial verbose
  rw [hends.outcome, ← hends.gives_iff, inject_gives_iff]

end UiHarness.Hook
