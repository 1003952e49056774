import UiHarness.Proofs.Generation

/-!
# Which files a unit changes

All steps for a unit up to the writing leave the files alone, whatever the service answers, and a
trial run writes nothing.  So the only changes are those of the writing, and they are confined to
few places: the two paths of the generated files, and the paths of the sources that were given
hooks.

* `Generation.Confined`: what may differ between the disks before and after the writing.
* `Generation.files_confined`: all that becomes of the files, in every case.
-/

namespace UiHarness.Generation

open Disk

/-- What may differ after the writing for a unit: files at the paths of its generated files, and at
the paths of its changed sources, which are sources that may be given hooks. -/
structure Confined (s : Settings) (u : UiUnit) (w : Prepared) (d d' : Disk) : Prop where
  grown : Grown d d'
  changed : ∀ l, d'.fileAt? l ≠ d.fileAt? l →
    (∃ paths, Artifact.pathsOf s u = .ok paths ∧
      (d'.leadsTo paths.interactor l = true ∨ d'.leadsTo paths.test l = true)) ∨
    ∃ path ∈ w.hooks.modified, d'.leadsTo (.ofText path) l = true
  sources : ∀ path ∈ w.hooks.modified, ∃ name, Hook.MayChange u name ∧
    u.paths.get? name = some path
  skipped : s.skipsHooks.isTrue = true → w.hooks.modified = []

/-- A unit for which nothing is ready leaves the files alone. -/
theorem disk_serve_of_error {s : Settings} {u : UiUnit} {session : Session} {f : Fault}
    (h : ((prepare s u).outcome session).1 = .error f) :
    ((serve s u).outcome session).2.disk = session.disk := by
  have hquiet := quiet_prepare s u session
  rw [serve_eq, Job.outcome_bind]
  cases hp : (prepare s u).outcome session with
  | mk r session' =>
    rw [hp] at h hquiet
    obtain rfl : r = .error f := h
    exact hquiet

/-- A unit for which all is ready leaves the disk that came of the writing. -/
theorem disk_serve_of_ok {s : Settings} {u : UiUnit} {session : Session} {w : Prepared}
    (h : ((prepare s u).outcome session).1 = .ok w) :
    ((serve s u).outcome session).2.disk =
      (Artifact.write session.disk s w.unit w.interactor w.test w.hooks.modified).1 := by
  have hquiet := quiet_prepare s u session
  rw [serve_eq, Job.outcome_bind]
  cases hp : (prepare s u).outcome session with
  | mk r session' =>
    rw [hp] at h hquiet
    obtain rfl : r = .ok w := h
    dsimp only at hquiet ⊢
    rw [disk_finish, hquiet]

/-- **A trial run leaves the files alone.** -/
theorem disk_serve_of_isDryRun {s : Settings} (h : s.isDryRun = true) (u : UiUnit)
    (session : Session) : ((serve s u).outcome session).2.disk = session.disk := by
  cases hp : ((prepare s u).outcome session).1 with
  | error f => exact disk_serve_of_error hp
  | ok w =>
    rw [disk_serve_of_ok hp, Artifact.write]
    cases Artifact.pathsOf s w.unit with
    | error f => rfl
    | ok paths =>
      dsimp only
      rw [if_pos h]

/-- **The writing for a unit is confined** to its generated files and its changed sources. -/
theorem confined_of_prepare {s : Settings} {u : UiUnit} {session : Session} {w : Prepared}
    (h : ((prepare s u).outcome session).1 = .ok w) :
    Confined s u w session.disk ((serve s u).outcome session).2.disk := by
  have hgives : (prepare s u).Gives w :=
    ⟨session, ((prepare s u).outcome session).2, Prod.ext h rfl⟩
  have hwrote := serve_wrote s u session
  have hcases := cases_of_giveHooks (giveHooks_of_prepare hgives)
  refine ⟨hwrote.toGrown, fun l hl => ?_, fun path hpath => ?_, fun hskips => ?_⟩
  · rw [hwrote.files] at hl
    cases hlast : ((serve s u).outcome session).2.disk.lastAt? l (madeBy s u session) with
    | none =>
      rw [hlast, Option.map_none, Option.none_or] at hl
      exact absurd rfl hl
    | some t =>
      obtain ⟨p, hp, hleads⟩ := exists_of_lastAt? hlast
      obtain ⟨w', hw', -, hwhere⟩ := of_mem_madeBy hp
      rw [h] at hw'
      obtain rfl := Except.ok.inj hw'
      rcases hwhere with hsource | ⟨paths, hpaths, heq | heq⟩
      · obtain ⟨path, hpath, rfl, -⟩ := Artifact.of_mem_sourceWrites hsource
        exact .inr ⟨path, hpath, hleads⟩
      · obtain ⟨rfl, -⟩ := Prod.mk.inj heq
        exact .inl ⟨paths, hpaths, .inl hleads⟩
      · obtain ⟨rfl, -⟩ := Prod.mk.inj heq
        exact .inl ⟨paths, hpaths, .inr hleads⟩
  · rcases hcases with ⟨-, -, hhooks⟩ | ⟨-, p, hp, -, hhooks⟩
    · rw [hhooks] at hpath
      cases hpath
    · rw [hhooks] at hpath
      exact Hook.exists_mayChange hp path hpath
  · rcases hcases with ⟨-, -, hhooks⟩ | ⟨hgiven, -⟩
    · rw [hhooks]
    · rw [hskips] at hgiven
      cases hgiven

/-- **What becomes of the files when a unit is served.**  Serving is preparing and then writing.
Preparing leaves the files alone.  So nothing changes in a trial run, or if preparing fails; and if
it does not, the changes are confined to the generated files and to the changed sources that are
told in the result, if there is one. -/
theorem files_confined (s : Settings) (u : UiUnit) (session : Session) :
    serve s u = prepare s u >>= finish s ∧
      ((prepare s u).outcome session).2.disk = session.disk ∧
      (s.isDryRun = true → ((ofUnit s u).outcome session).2.disk = session.disk) ∧
      (∀ f, ((prepare s u).outcome session).1 = .error f →
        ((ofUnit s u).outcome session).2.disk = session.disk) ∧
      ∀ w, ((prepare s u).outcome session).1 = .ok w →
        Confined s u w session.disk ((ofUnit s u).outcome session).2.disk ∧
        ∀ g served, ((ofUnit s u).outcome session).1 = .ok g → g.outcome = .ok served →
          served.hooks = w.hooks ∧ Artifact.pathsOf s u = .ok served.paths := by
  rw [disk_ofUnit]
  refine ⟨serve_eq s u, quiet_prepare s u session,
    fun hdry => disk_serve_of_isDryRun hdry u session, fun f hf => disk_serve_of_error hf,
    fun w hw => ⟨confined_of_prepare hw, fun g served hg hserved => ?_⟩⟩
  rw [(outcome_ofUnit hg).2] at hserved
  obtain ⟨w', hwrote⟩ := wrote_of_serve hserved
  have hprepared := hwrote.prepared
  rw [hw] at hprepared
  obtain rfl := Except.ok.inj hprepared
  exact ⟨hwrote.hooks, Artifact.pathsOf_of_outcome hwrote.outcome s ▸ hwrote.paths⟩

end UiHarness.Generation
