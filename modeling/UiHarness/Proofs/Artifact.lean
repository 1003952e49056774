import UiHarness.Proofs.Disk.Writes
import UiHarness.Proofs.Hook.Injection

/-!
# What is written for a unit

The writing of a unit makes a list of writes: its changed sources by their paths, then the
interactor, then the test.  A failure cuts the list short.

* `Artifact.sourceWrites`: the changed sources and their paths.
* `Artifact.written`: the writes that are made, up to the first failure.
* `Artifact.write_wrote`: the disk afterwards is the one that came of these writes.
* `Artifact.sourceAt_eq`: the text that is written back to a path.
-/

namespace UiHarness.Artifact

open Disk

/-! ## 1.  Sources -/

/-- The writes by which sources are written back, up to the first path that belongs to no
source. -/
def sourceWrites (u : UiUnit) : List Text → List Write
  | [] => []
  | path :: rest =>
    match sourceAt u path with
    | .error _ => []
    | .ok none => sourceWrites u rest
    | .ok (some t) => (.ofText path, t) :: sourceWrites u rest

theorem of_mem_sourceWrites {u : UiUnit} {modified : List Text} {w : Write}
    (h : w ∈ sourceWrites u modified) :
    ∃ path ∈ modified, w.1 = .ofText path ∧ sourceAt u path = .ok (some w.2) := by
  induction modified with
  | nil => cases h
  | cons path rest ih =>
    rw [sourceWrites] at h
    split at h
    · cases h
    · obtain ⟨p, hp, hw⟩ := ih h
      exact ⟨p, List.mem_cons_of_mem _ hp, hw⟩
    · rename_i t ht
      rcases List.mem_cons.1 h with rfl | h
      · exact ⟨path, List.mem_cons_self .., rfl, ht⟩
      · obtain ⟨p, hp, hw⟩ := ih h
        exact ⟨p, List.mem_cons_of_mem _ hp, hw⟩

/-- If every path belongs to a source, each is written back. -/
theorem mem_sourceWrites {u : UiUnit} {modified : List Text} {path t : Text}
    (hall : ∀ p ∈ modified, ∃ t, sourceAt u p = .ok (some t)) (hp : path ∈ modified)
    (ht : sourceAt u path = .ok (some t)) : (Path.ofText path, t) ∈ sourceWrites u modified := by
  induction modified with
  | nil => cases hp
  | cons p rest ih =>
    obtain ⟨t', ht'⟩ := hall p (List.mem_cons_self ..)
    rw [sourceWrites, ht']
    dsimp only
    rcases List.mem_cons.1 hp with rfl | hp
    · rw [ht'] at ht
      obtain rfl := Option.some.inj (Except.ok.inj ht)
      exact List.mem_cons_self ..
    · exact List.mem_cons_of_mem _ (ih (fun q hq => hall q (List.mem_cons_of_mem _ hq)) hp)

/-- **Writing sources back** makes these writes up to the first failure. -/
theorem saveSources_wrote (d : Disk) (u : UiUnit) (modified : List Text) :
    Wrote d (d.made (sourceWrites u modified)) (saveSources d u modified).1 ∧
      ((saveSources d u modified).2 = .ok () →
        d.made (sourceWrites u modified) = sourceWrites u modified) := by
  induction modified generalizing d with
  | nil => exact ⟨(Widened.refl d).wrote, fun _ => rfl⟩
  | cons path rest ih =>
    rw [saveSources, sourceWrites]
    cases hsource : sourceAt u path with
    | error f => exact ⟨(Widened.refl d).wrote, fun h => by cases h⟩
    | ok found =>
      cases found with
      | none => exact ih d
      | some t =>
        dsimp only
        rw [made]
        have hcases := overwrite_cases d (.ofText path) t
        cases ho : d.overwrite (.ofText path) t with
        | mk d' r =>
          rw [ho] at hcases
          rcases hcases with ⟨hok, hw⟩ | ⟨f, herr, hw⟩
          · dsimp only at hok hw
            subst hok
            obtain ⟨hrest, hall⟩ := ih d'
            exact ⟨hw.wrote.trans hrest, fun h => congrArg _ (hall h)⟩
          · dsimp only at herr hw
            subst herr
            exact ⟨hw.wrote, fun h => by cases h⟩

/-! ## 2.  All files -/

/-- The writes that are made for a unit, up to the first failure. -/
def written (d : Disk) (s : Settings) (u : UiUnit) (interactor test : Text)
    (modified : List Text) : List Write :=
  match pathsOf s u with
  | .error _ => []
  | .ok paths =>
    if s.isDryRun then []
    else
      d.made (sourceWrites u modified) ++
        match saveSources d u modified with
        | (_, .error _) => []
        | (d', .ok ()) => d'.made [(paths.interactor, interactor), (paths.test, test)]

/-- **The disk after the writing for a unit** came of these writes. -/
theorem write_wrote (d : Disk) (s : Settings) (u : UiUnit) (interactor test : Text)
    (modified : List Text) :
    Wrote d (written d s u interactor test modified)
      (write d s u interactor test modified).1 := by
  obtain ⟨hsources, -⟩ := saveSources_wrote d u modified
  rw [written, write]
  cases pathsOf s u with
  | error f => exact (Widened.refl d).wrote
  | ok paths =>
    dsimp only
    split
    · exact (Widened.refl d).wrote
    · cases hs : saveSources d u modified with
      | mk d' r =>
        rw [hs] at hsources
        cases r with
        | error f =>
          rw [List.append_nil]
          exact hsources
        | ok _ =>
          have hfiles := (saveAll_wrote d' [(paths.interactor, interactor), (paths.test, test)]).1
          dsimp only at hsources ⊢
          cases ha : saveAll d' [(paths.interactor, interactor), (paths.test, test)] with
          | mk d'' r' =>
            rw [ha] at hfiles
            cases r' with
            | error f => exact hsources.trans hfiles
            | ok _ => exact hsources.trans hfiles

/-- Only the changed sources and the generated files are written. -/
theorem of_mem_written {d : Disk} {s : Settings} {u : UiUnit} {interactor test : Text}
    {modified : List Text} {w : Write} (h : w ∈ written d s u interactor test modified) :
    w ∈ sourceWrites u modified ∨ ∃ paths, pathsOf s u = .ok paths ∧
      (w = (paths.interactor, interactor) ∨ w = (paths.test, test)) := by
  rw [written] at h
  cases hp : pathsOf s u with
  | error f =>
    rw [hp] at h
    cases h
  | ok paths =>
    rw [hp] at h
    dsimp only at h
    split at h
    · cases h
    · rcases List.mem_append.1 h with h | h
      · exact .inl (mem_of_mem_made h)
      · split at h
        · cases h
        · have hmem := mem_of_mem_made h
          rw [List.mem_cons, List.mem_singleton] at hmem
          exact .inr ⟨paths, rfl, hmem⟩

/-- A writing that succeeds makes all its writes. -/
theorem written_eq {d : Disk} {s : Settings} {u : UiUnit} {interactor test : Text}
    {modified : List Text} {paths : Paths}
    (h : (write d s u interactor test modified).2 = .ok paths) :
    pathsOf s u = .ok paths ∧ written d s u interactor test modified =
      if s.isDryRun then []
      else sourceWrites u modified ++ [(paths.interactor, interactor), (paths.test, test)] := by
  obtain ⟨-, hsources⟩ := saveSources_wrote d u modified
  rw [write] at h
  rw [written]
  cases hp : pathsOf s u with
  | error f =>
    rw [hp] at h
    cases h
  | ok paths' =>
    rw [hp] at h
    dsimp only at h ⊢
    split at h
    · rename_i hdry
      rw [if_pos hdry, if_pos hdry]
      exact ⟨h, rfl⟩
    · rename_i hdry
      rw [if_neg hdry, if_neg hdry]
      cases hs : saveSources d u modified with
      | mk d' r =>
        rw [hs] at h hsources
        cases r with
        | error f => cases h
        | ok _ =>
          have hall := (saveAll_wrote d' [(paths'.interactor, interactor), (paths'.test, test)]).2
          dsimp only at h hsources ⊢
          cases ha : saveAll d' [(paths'.interactor, interactor), (paths'.test, test)] with
          | mk d'' r' =>
            rw [ha] at h hall
            cases r' with
            | error f => cases h
            | ok _ =>
              obtain rfl := Except.ok.inj h
              exact ⟨rfl, by rw [hsources rfl, hall rfl]⟩

/-! ## 3.  What is written back -/

/-- Hooks do not change where the generated files of a unit go. -/
theorem pathsOf_of_outcome {u u' : UiUnit} {modified : List Text}
    (h : Hook.Outcome u u' modified) (s : Settings) : pathsOf s u' = pathsOf s u := by
  obtain ⟨hkind, hname, hcategory⟩ := h.facts
  rw [pathsOf, pathsOf, UiUnit.isPage, UiUnit.isPage, hkind, hname, hcategory]

theorem of_keyOf? {value key : Text} {l : List (Text × Text)} (h : keyOf? value l = some key) :
    (key, value) ∈ l := by
  induction l with
  | nil => cases h
  | cons e l ih =>
    obtain ⟨k, v⟩ := e
    rw [keyOf?] at h
    split at h
    · rename_i hv
      rw [← Option.some.inj h, ← hv]
      exact List.mem_cons_self ..
    · exact List.mem_cons_of_mem _ (ih h)

theorem exists_keyOf? {value key : Text} {l : List (Text × Text)} (h : (key, value) ∈ l) :
    ∃ k, keyOf? value l = some k := by
  induction l with
  | nil => cases h
  | cons e l ih =>
    obtain ⟨k, v⟩ := e
    rw [keyOf?]
    split
    · exact ⟨k, rfl⟩
    · rename_i hv
      rcases List.mem_cons.1 h with h | h
      · exact absurd (congrArg Prod.snd h).symm hv
      · exact ih h

/-- **The text that is written back to the path of a source**: that of the first source of this
path, with its hooks if it was given any. -/
theorem sourceAt_eq {u u' : UiUnit} {modified : List Text} (h : Hook.Outcome u u' modified)
    (hall : ∀ key p, u.paths.get? key = some p → ∃ code, u.sources.get? key = some code)
    {name path : Text} (hpath : u.paths.get? name = some path) :
    ∃ key code t, u.paths.get? key = some path ∧ u.sources.get? key = some code ∧
      sourceAt u' path = .ok (some t) ∧
      (t = code ∨ ∃ r, Hook.Rewritten u key path r ∧ t = r.code) := by
  obtain ⟨key, hkey⟩ := exists_keyOf? (Table.get?_eq_some.1 hpath)
  have hp : u.paths.get? key = some path := Table.get?_eq_some.2 (of_keyOf? hkey)
  obtain ⟨code, hcode⟩ := hall key path hp
  obtain ⟨t, ht, hcases⟩ := h.sources key code hcode
  refine ⟨key, code, t, hp, hcode, ?_, ?_⟩
  · rw [sourceAt, h.paths, hkey]
    dsimp only
    rw [ht]
  · rcases hcases with rfl | ⟨path', r, hr, hc, -⟩
    · exact .inl rfl
    · have hlocated := hr.located
      rw [hp] at hlocated
      exact .inr ⟨r, Option.some.inj hlocated ▸ hr, hc⟩

end UiHarness.Artifact
