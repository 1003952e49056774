import UiHarness.Proofs.Disk.Writes

/-!
# What is new on a disk

A disk that grows can get directories and files where nothing was.  Where they are follows from the
paths that are written: they are on the way of such a path, wherever this leads.  So a path that
does not come by a new location is followed as it was before, and finds what it found before.

* `Disk.Added`: the new locations of a disk have a property.
* `Disk.OnWay`: the locations on the way of a path.
* `Disk.added_overwrite`, `Artifact.added_saveAll`: new locations are on the way of what is written.
* `Disk.at?_of_onWay`: on the way of a path that leads to something nothing is new.
* `Disk.OldWay`: nothing is new on the way of a path, so that it leads where it led before.
-/

namespace UiHarness

namespace Disk

/-! ## 1.  New locations -/

/-- All locations where something is new have a property. -/
def Added (d d' : Disk) (P : Location → Prop) : Prop :=
  ∀ l, d.at? l = none → d'.at? l ≠ none → P l

variable {d d' d'' : Disk} {p : Path} {P Q : Location → Prop}

theorem Added.refl (d : Disk) (P : Location → Prop) : Added d d P := fun _ h h' => absurd h h'

theorem Added.mono (h : Added d d' P) (hPQ : ∀ l, P l → Q l) : Added d d' Q :=
  fun l hl hl' => hPQ l (h l hl hl')

theorem Added.trans (h : Added d d' P) (h' : Added d' d'' P) : Added d d'' P := by
  intro l hl hl''
  by_cases hl' : d'.at? l = none
  · exact h' l hl' hl''
  · exact h l hl hl'

/-- An entry is new at its own location only. -/
theorem added_put {l : Location} (hl : l ≠ []) (e : Entry) : Added d (d.put l e) l.Same := by
  intro l' h h'
  rw [at?_put hl] at h'
  by_cases hs : l.Same l'
  · exact hs
  · rw [if_neg hs] at h'
    exact absurd h h'

/-- A location on the way of a path: where its first parts lead, without a look at the files. -/
def OnWay (d : Disk) (p : Path) (l : Location) : Prop :=
  ∃ front, front <+: p.parts ∧ Location.Same (Path.normalized (d.startOf p) front) l

/-- The way of a path depends on the working directory only. -/
theorem onWay_congr (h : d'.here = d.here) (p : Path) (l : Location) :
    OnWay d' p l ↔ OnWay d p l := by
  rw [OnWay, OnWay, startOf, startOf, h]

theorem OnWay.of_parent {l : Location} (h : OnWay d p.parent l) : OnWay d p l := by
  obtain ⟨front, hfront, hs⟩ := h
  exact ⟨front, hfront.trans (List.dropLast_prefix _), hs⟩

/-- Where a path leads is on its way. -/
theorem onWay_of_locate {l l' : Location} (h : d.locate p = .ok l) (hs : l.Same l') :
    OnWay d p l' := by
  refine ⟨p.parts, List.prefix_refl _, ?_⟩
  rwa [← eq_normalized_of_walk (walk_of_locate h)]

/-! ## 2.  Writing -/

theorem added_of_makeOne (h : d.makeOne p = .ok d') : Added d d' (OnWay d p) := by
  rw [makeOne] at h
  cases hl : d.locate p with
  | error why =>
    rw [hl] at h
    cases h
  | ok l =>
    rw [hl] at h
    dsimp only at h
    split at h
    · cases h
    · rename_i hnone _
      cases h
      have hne : l ≠ [] := by
        rintro rfl
        cases hnone
      exact (added_put hne _).mono fun l' => onWay_of_locate hl
    · cases h
    · cases h

/-- **Making a directory** with those above it adds locations on its way. -/
theorem added_makeWithin (n : Nat) (d : Disk) (p : Path) :
    Added d (d.makeWithin n p).1 (OnWay d p) := by
  induction n generalizing d p with
  | zero => exact Added.refl d _
  | succ n ih =>
    rw [makeWithin]
    split
    · rename_i d' h
      exact added_of_makeOne h
    · split
      · exact Added.refl d _
      · have hparent := (ih d p.parent).mono fun l => OnWay.of_parent
        have hhere := (widened_makeWithin n d p.parent).here
        split
        · rename_i d' f h
          rwa [h] at hparent
        · rename_i d' h
          rw [h] at hparent hhere
          split
          · rename_i d'' h'
            exact hparent.trans ((added_of_makeOne h').mono fun l => (onWay_congr hhere p l).1)
          · exact hparent
    · exact Added.refl d _

theorem added_of_writeText {t : Text} (h : d.writeText p t = .ok d') : Added d d' (OnWay d p) := by
  rw [writeText, writeBytes] at h
  cases hl : d.locate p with
  | error why =>
    rw [hl] at h
    cases h
  | ok l =>
    rw [hl] at h
    dsimp only at h
    split at h
    · cases h
    · rename_i _ hdir
      cases h
      have hne : l ≠ [] := by
        rintro rfl
        exact hdir rfl
      exact (added_put hne _).mono fun l' => onWay_of_locate hl
    · cases h
    · cases h

theorem added_save (d : Disk) (p : Path) (t : Text) : Added d (d.save p t).1 (OnWay d p) := by
  have hdirs := (added_makeWithin (p.parent.parts.length + 1) d p.parent).mono
    fun l => OnWay.of_parent
  have hhere := (widened_makeWithin (p.parent.parts.length + 1) d p.parent).here
  rw [save, makeDirectory]
  split
  · rename_i d' f h
    rwa [h] at hdirs
  · rename_i d' h
    rw [h] at hdirs hhere
    split
    · rename_i d'' h'
      exact hdirs.trans ((added_of_writeText h').mono fun l => (onWay_congr hhere p l).1)
    · exact hdirs

/-- **Writing a text** adds locations on the way of its path, whether it succeeds or not. -/
theorem added_overwrite (d : Disk) (p : Path) (t : Text) :
    Added d (d.overwrite p t).1 (OnWay d p) := by
  rw [overwrite]
  split
  · exact Added.refl d _
  · exact added_save d p t

theorem grown_overwrite (d : Disk) (p : Path) (t : Text) : Grown d (d.overwrite p t).1 := by
  rcases overwrite_cases d p t with ⟨-, hw⟩ | ⟨f, -, hw⟩
  · exact hw.toGrown
  · exact hw.toGrown

/-! ## 3.  Following paths as before -/

/-- Before a part can be followed, a directory must be there. -/
theorem directory_of_visited {start l : Location} {parts front back : List Text} {part : Text}
    (h : d.walk start parts = .ok l) (hp : parts = front ++ part :: back) :
    d.at? (Path.normalized start front) = some .directory := by
  obtain ⟨m, hm, hrest⟩ := exists_walk_of_append (hp ▸ h)
  rw [← eq_normalized_of_walk hm]
  rw [walk] at hrest
  split at hrest
  · cases hrest
  · cases hrest
  · assumption

/-- On the way of parts that lead to something everything is there. -/
theorem at?_of_walk {start l : Location} {parts front : List Text} (h : d.walk start parts = .ok l)
    (hat : d.at? l ≠ none) (hfront : front <+: parts) :
    d.at? (Path.normalized start front) ≠ none := by
  obtain ⟨back, hback⟩ := hfront
  cases back with
  | nil =>
    rw [List.append_nil] at hback
    rwa [hback, ← eq_normalized_of_walk h]
  | cons part back =>
    rw [directory_of_visited h hback.symm]
    exact Option.some_ne_none _

/-- **On the way of a path that leads to something** everything is there. -/
theorem at?_of_onWay {l m : Location} (hm : d.locate p = .ok m) (hat : d.at? m ≠ none)
    (h : OnWay d p l) : d.at? l ≠ none := by
  obtain ⟨front, hfront, hs⟩ := h
  rw [← at?_of_same hs]
  exact at?_of_walk (walk_of_locate hm) hat hfront

/-- **Names are followed as on another disk** if the directories on the way are there. -/
theorem walk_of_visited {start l : Location} {parts : List Text} (h : d'.walk start parts = .ok l)
    (hv : ∀ front part back, parts = front ++ part :: back →
      d.at? (Path.normalized start front) = some .directory) : d.walk start parts = .ok l := by
  induction parts generalizing start with
  | nil => exact h
  | cons part parts ih =>
    have hhere : d.at? start = some .directory := hv [] part parts rfl
    rw [walk] at h ⊢
    rw [hhere]
    split at h
    · cases h
    · cases h
    · by_cases hdots : part = ("..".toList : Text)
      · rw [if_pos hdots] at h ⊢
        refine ih h fun front x back hx => ?_
        have hnext := hv (part :: front) x back (congrArg _ hx)
        rwa [Path.normalized, if_pos hdots] at hnext
      · rw [if_neg hdots] at h ⊢
        split at h
        · cases h
        · rename_i hlong
          rw [if_neg hlong]
          refine ih h fun front x back hx => ?_
          have hnext := hv (part :: front) x back (congrArg _ hx)
          rwa [Path.normalized, if_neg hdots] at hnext

/-- At a location nothing is new. -/
def Old (d d' : Disk) (l : Location) : Prop := d'.at? l ≠ none → d.at? l ≠ none

/-- On the way of a path nothing is new. -/
def OldWay (d d' : Disk) (p : Path) : Prop :=
  ∀ front, front <+: p.parts → Old d d' (Path.normalized (d.startOf p) front)

/-- **A path on whose way nothing is new** leads where it led before. -/
theorem OldWay.locate (h : OldWay d d' p) (hg : Grown d d') {l : Location}
    (hl : d'.locate p = .ok l) : d.locate p = .ok l ∧ Old d d' l := by
  have hwalk := walk_of_locate hl
  have hstart : d'.startOf p = d.startOf p := by rw [startOf, startOf, hg.here]
  rw [hstart] at hwalk
  refine ⟨locate_of_walk hl (walk_of_visited hwalk fun front part back hp => ?_), ?_⟩
  · have hdir := directory_of_visited hwalk hp
    have hfront : front <+: p.parts := ⟨part :: back, hp.symm⟩
    exact directory_of_grown hg (h front hfront (by rw [hdir]; exact Option.some_ne_none _)) hdir
  · rw [eq_normalized_of_walk hwalk]
    exact h p.parts (List.prefix_refl _)

theorem OldWay.isFile (h : OldWay d d' p) (hg : Grown d d') (hp : d'.isFile p = .ok true) :
    d.isFile p = .ok true := by
  obtain ⟨bytes, hfind⟩ := isFile_eq_true.1 hp
  obtain ⟨l, hl, hat⟩ := find_eq_ok.1 hfind
  obtain ⟨hlocate, hold⟩ := h.locate hg hl
  obtain ⟨old, hfile⟩ := file_of_grown hg (hold (by rw [hat]; exact Option.some_ne_none _)) hat
  exact isFile_eq_true.2 ⟨old, find_eq_ok.2 ⟨l, hlocate, hfile⟩⟩

theorem OldWay.isDirectory (h : OldWay d d' p) (hg : Grown d d')
    (hp : d'.isDirectory p = .ok true) : d.isDirectory p = .ok true := by
  obtain ⟨l, hl, hat⟩ := find_eq_ok.1 (isDirectory_eq_true.1 hp)
  obtain ⟨hlocate, hold⟩ := h.locate hg hl
  have hdir := directory_of_grown hg (hold (by rw [hat]; exact Option.some_ne_none _)) hat
  exact isDirectory_eq_true.2 (find_eq_ok.2 ⟨l, hlocate, hdir⟩)

end Disk

namespace Artifact

open Disk

/-! ## 4.  Several writes -/

/-- Writing texts one after the other adds locations on the ways of their paths. -/
theorem added_saveAll (d : Disk) (ws : List Write) :
    Added d (saveAll d ws).1 fun l => ∃ w ∈ ws, OnWay d w.1 l := by
  induction ws generalizing d with
  | nil => exact Added.refl d _
  | cons w ws ih =>
    obtain ⟨p, t⟩ := w
    have hfirst := (added_overwrite d p t).mono (Q := fun l => ∃ w ∈ (p, t) :: ws, OnWay d w.1 l)
      fun l hl => ⟨(p, t), List.mem_cons_self .., hl⟩
    have hhere := (grown_overwrite d p t).here
    rw [saveAll]
    split
    · rename_i d' h
      rw [h] at hfirst hhere
      refine hfirst.trans ((ih d').mono fun l => ?_)
      rintro ⟨w, hw, hl⟩
      exact ⟨w, List.mem_cons_of_mem _ hw, (onWay_congr hhere w.1 l).1 hl⟩
    · rename_i d' f h
      rwa [h] at hfirst

/-- Writing sources back adds locations on the ways of their paths. -/
theorem added_saveSources (d : Disk) (u : UiUnit) (modified : List Text) :
    Added d (saveSources d u modified).1 fun l =>
      ∃ path ∈ modified, (∃ t, sourceAt u path = .ok (some t)) ∧ OnWay d (.ofText path) l := by
  induction modified generalizing d with
  | nil => exact Added.refl d _
  | cons path rest ih =>
    rw [saveSources]
    cases hsource : sourceAt u path with
    | error f => exact Added.refl d _
    | ok found =>
      cases found with
      | none =>
        refine (ih d).mono fun l => ?_
        rintro ⟨p, hp, hl⟩
        exact ⟨p, List.mem_cons_of_mem _ hp, hl⟩
      | some t =>
        have hfirst := (added_overwrite d (.ofText path) t).mono
          (Q := fun l => ∃ p ∈ path :: rest, (∃ t, sourceAt u p = .ok (some t)) ∧
            OnWay d (.ofText p) l)
          fun l hl => ⟨path, List.mem_cons_self .., ⟨t, hsource⟩, hl⟩
        have hhere := (grown_overwrite d (.ofText path) t).here
        dsimp only
        split
        · rename_i d' h
          rw [h] at hfirst hhere
          refine hfirst.trans ((ih d').mono fun l => ?_)
          rintro ⟨p, hp, hsource, hl⟩
          exact ⟨p, List.mem_cons_of_mem _ hp, hsource, (onWay_congr hhere _ l).1 hl⟩
        · rename_i d' f h
          rwa [h] at hfirst

end Artifact

end UiHarness
