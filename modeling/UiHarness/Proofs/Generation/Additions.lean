import UiHarness.Proofs.Disk.Additions
import UiHarness.Proofs.Generation.Sources

/-!
# What a run over several units adds

Serving a unit writes its sources back and makes its generated files.  The sources were read from
files, so nothing is new on their ways.  What is new after a run is therefore on the way of a
generated file, also if the writing for a unit has failed.

* `Generation.OnGenerated`: the locations on the ways of the generated files of a unit.
* `Generation.added_serve`: what serving a unit adds.
* `Generation.added_ofUnitsFrom`: what a run over several units adds.
-/

namespace UiHarness

open Disk

namespace Artifact

/-! ## 1.  Writing -/

/-- **The writing for a unit** adds locations on the ways of its generated files, if nothing is new
on the ways of its sources. -/
theorem added_write {d : Disk} {s : Settings} {u : UiUnit} {P : Location → Prop}
    {interactor test : Text} {modified : List Text}
    (hsources : ∀ path ∈ modified, ∀ t, sourceAt u path = .ok (some t) →
      ∀ l, OnWay d (.ofText path) l → d.at? l ≠ none)
    (hpaths : ∀ paths, pathsOf s u = .ok paths →
      ∀ l, OnWay d paths.interactor l ∨ OnWay d paths.test l → P l) :
    Added d (write d s u interactor test modified).1 P := by
  have hwritten : ∀ d', (saveSources d u modified).1 = d' → Added d d' P := by
    rintro d' rfl l hl hl'
    obtain ⟨path, hp, ⟨t, ht⟩, hway⟩ := added_saveSources d u modified l hl hl'
    exact absurd hl (hsources path hp t ht l hway)
  have hhere := (saveSources_wrote d u modified).1.here
  rw [write]
  split
  · exact Added.refl d P
  · rename_i paths hp
    have hgenerated : ∀ d' : Disk, d'.here = d.here → Added d'
        (saveAll d' [(paths.interactor, interactor), (paths.test, test)]).1 P := by
      intro d' hd'
      refine (added_saveAll d' _).mono fun l => ?_
      rintro ⟨w, hw, hway⟩
      rw [onWay_congr hd'] at hway
      rw [List.mem_cons, List.mem_singleton] at hw
      rcases hw with rfl | rfl
      · exact hpaths paths hp l (.inl hway)
      · exact hpaths paths hp l (.inr hway)
    split
    · exact Added.refl d P
    · split
      · rename_i d' f hs
        exact hwritten d' (by rw [hs])
      · rename_i d' hs
        rw [hs] at hhere
        have hall := hgenerated d' hhere
        split
        · rename_i d'' f ha
          rw [ha] at hall
          exact (hwritten d' (by rw [hs])).trans hall
        · rename_i d'' ha
          rw [ha] at hall
          exact (hwritten d' (by rw [hs])).trans hall

end Artifact

namespace Generation

open Detection

/-- The locations on the ways of the generated files of a unit. -/
def OnGenerated (d : Disk) (s : Settings) (u : UiUnit) (l : Location) : Prop :=
  ∃ paths, Artifact.pathsOf s u = .ok paths ∧ (OnWay d paths.interactor l ∨ OnWay d paths.test l)

variable {d : Disk} {s : Settings}

/-! ## 2.  Runs -/

/-- **Serving a unit** that was found on a disk adds locations on the ways of its generated
files. -/
theorem added_serve {u : UiUnit} {session : Session} (hu : Found d s Path.Clean u)
    (hgrown : Grown d session.disk) :
    Added session.disk ((serve s u).outcome session).2.disk (OnGenerated d s u) := by
  have hquiet := quiet_prepare s u session
  rw [serve_eq, Job.outcome_bind]
  cases hp : (prepare s u).outcome session with
  | mk r session' =>
    rw [hp] at hquiet
    cases r with
    | error f =>
      dsimp only at hquiet ⊢
      rw [hquiet]
      exact Added.refl _ _
    | ok w =>
      have houtcome := outcome_of_prepare ⟨session, session', hp⟩
      dsimp only at hquiet ⊢
      rw [disk_finish, hquiet]
      refine Artifact.added_write (fun path hpath t _ l hway => ?_) fun paths hpaths l hway => ?_
      · obtain ⟨key, p, l', raw, _, rfl, hat, -⟩ := hu.sourceAt_of_mem houtcome hpath
        rw [hat.ofText] at hway
        refine at?_of_onWay (locate_of_grown hgrown hat.located) ?_ hway
        obtain ⟨bytes, hfile⟩ := hgrown.file l' _ (fileAt?_eq_some.1 hat.file)
        rw [hfile]
        exact Option.some_ne_none _
      · rw [Artifact.pathsOf_of_outcome houtcome] at hpaths
        rw [onWay_congr hgrown.here, onWay_congr hgrown.here] at hway
        exact ⟨paths, hpaths, hway⟩

/-- **A run over several units** that were found on a disk adds locations on the ways of their
generated files. -/
theorem added_ofUnitsFrom {count number : Nat} {us : List UiUnit} {session session' : Session}
    {gs : List Generation} (hus : ∀ u ∈ us, Found d s Path.Clean u)
    (hgrown : Grown d session.disk)
    (h : (ofUnitsFrom s count number us).outcome session = (.ok gs, session')) :
    Added session.disk session'.disk fun l => ∃ u ∈ us, OnGenerated d s u l := by
  induction us generalizing number session gs with
  | nil =>
    obtain ⟨-, rfl⟩ := Prod.mk.inj h
    exact Added.refl _ _
  | cons u us ih =>
    obtain ⟨g, gs', -, -, hrest⟩ := ofUnitsFrom_cons h
    have hhere : Grown d (announced count number u session).disk := hgrown
    have hfirst := added_serve (hus u (List.mem_cons_self ..)) hhere
    have hserve := serve_wrote s u (announced count number u session)
    rw [← disk_ofNumbered] at hfirst hserve
    refine (hfirst.mono fun l hl => ⟨u, List.mem_cons_self .., hl⟩).trans ?_
    refine (ih (fun v hv => hus v (List.mem_cons_of_mem _ hv)) (hgrown.trans hserve.toGrown)
      hrest).mono fun l => ?_
    rintro ⟨v, hv, hl⟩
    exact ⟨v, List.mem_cons_of_mem _ hv, hl⟩

/-- What comes of several units is told unit by unit. -/
theorem units_ofUnitsFrom {count number : Nat} {us : List UiUnit} {session session' : Session}
    {gs : List Generation}
    (h : (ofUnitsFrom s count number us).outcome session = (.ok gs, session')) :
    gs.map Generation.unit = us := by
  induction us generalizing number session gs with
  | nil =>
    obtain ⟨h, -⟩ := Prod.mk.inj h
    obtain rfl := Except.ok.inj h
    rfl
  | cons u us ih =>
    obtain ⟨g, gs', rfl, hfirst, hrest⟩ := ofUnitsFrom_cons h
    rw [List.map_cons, ih hrest, (ofNumbered_ok hfirst).1]

end Generation

end UiHarness
