import UiHarness.Proofs.Artifact

/-!
# A writing that fails

The files of a unit are written in place, one after the other, and nothing is taken back.  So a
writing that fails has done what stood before the failure: which changed sources have been
written back, and whether the interactor has been written, depends on where it failed.

The order is fixed: the changed sources as they are listed, then the interactor, then the test.  A
listed path that belongs to a source without text fails when its turn comes, like a write.

* `Artifact.perform`: steps one after the other, and `Artifact.write_eq_perform`.
* `Artifact.Halted`: what is known of steps that came to a failure.
* `Artifact.halted_of_write`: a writing that fails has made all writes before the failing one.
* `Artifact.write_leaves_half`: a writing that leaves a source with hooks and no test.
-/

namespace UiHarness.Artifact

open Disk

/-! ## 1.  Steps -/

/-- What is done in one step: a write, or a failure in the place of one. -/
abbrev Step := Except Fault Write

/-- Does some steps one after the other, up to the first failure. -/
def perform (d : Disk) : List Step → Disk × Except Fault Unit
  | [] => (d, .ok ())
  | .error f :: _ => (d, .error f)
  | .ok w :: steps =>
    match d.overwrite w.1 w.2 with
    | (d', .ok ()) => perform d' steps
    | (d', .error f) => (d', .error f)

theorem perform_append (d : Disk) (steps steps' : List Step) :
    perform d (steps ++ steps') =
      match perform d steps with
      | (d', .ok ()) => perform d' steps'
      | (d', .error f) => (d', .error f) := by
  induction steps generalizing d with
  | nil => rfl
  | cons step steps ih =>
    cases step with
    | error f => rfl
    | ok w =>
      rw [List.cons_append, perform, perform]
      cases d.overwrite w.1 w.2 with
      | mk d' r =>
        cases r with
        | error f => rfl
        | ok _ => exact ih d'

/-- The step for a path of a changed source; a path that belongs to no source needs none. -/
def sourceStep? (u : UiUnit) (path : Text) : Option Step :=
  match sourceAt u path with
  | .error f => some (.error f)
  | .ok none => none
  | .ok (some t) => some (.ok (.ofText path, t))

theorem saveSources_eq_perform (d : Disk) (u : UiUnit) (modified : List Text) :
    saveSources d u modified = perform d (modified.filterMap (sourceStep? u)) := by
  induction modified generalizing d with
  | nil => rfl
  | cons path rest ih =>
    rw [saveSources, List.filterMap_cons, sourceStep?]
    cases sourceAt u path with
    | error f => rfl
    | ok found =>
      cases found with
      | none => exact ih d
      | some t =>
        dsimp only
        rw [perform]
        cases d.overwrite (.ofText path) t with
        | mk d' r =>
          cases r with
          | error f => rfl
          | ok _ => exact ih d'

theorem saveAll_eq_perform (d : Disk) (ws : List Write) :
    saveAll d ws = perform d (ws.map .ok) := by
  induction ws generalizing d with
  | nil => rfl
  | cons w ws ih =>
    rw [saveAll, List.map_cons, perform]
    cases d.overwrite w.1 w.2 with
    | mk d' r =>
      cases r with
      | error f => rfl
      | ok _ => exact ih d'

/-- All steps for a unit: its changed sources, the interactor, the test. -/
def steps (u : UiUnit) (paths : Paths) (interactor test : Text) (modified : List Text) :
    List Step :=
  modified.filterMap (sourceStep? u) ++
    [.ok (paths.interactor, interactor), .ok (paths.test, test)]

/-- **The writing for a unit** does these steps one after the other. -/
theorem write_eq_perform {s : Settings} {u : UiUnit} {paths : Paths}
    (hpaths : pathsOf s u = .ok paths) (hdry : s.isDryRun = false) (d : Disk)
    (interactor test : Text) (modified : List Text) :
    write d s u interactor test modified =
      match perform d (steps u paths interactor test modified) with
      | (d', .ok ()) => (d', .ok paths)
      | (d', .error f) => (d', .error f) := by
  rw [write, hpaths, steps, perform_append, ← saveSources_eq_perform]
  dsimp only
  rw [hdry, if_neg Bool.false_ne_true]
  cases saveSources d u modified with
  | mk d' r =>
    cases r with
    | error f => rfl
    | ok _ =>
      dsimp only
      rw [saveAll_eq_perform, List.map_cons, List.map_cons, List.map_nil]
      cases perform d' [.ok (paths.interactor, interactor), .ok (paths.test, test)] with
      | mk d'' r' =>
        cases r' with
        | error f => rfl
        | ok _ => rfl

/-! ## 2.  Failures -/

/-- What is known of steps that came to a failure: those before it are writes that have all been
made, and nothing else has. -/
structure Halted (d : Disk) (steps : List Step) (f : Fault) (d' : Disk) (done : List Write)
    (failed : Step) (rest : List Step) : Prop where
  order : steps = done.map .ok ++ failed :: rest
  wrote : Wrote d done d'
  cause : failed = .error f ∨ ∃ w before, failed = .ok w ∧ Wrote d done before ∧
    before.overwrite w.1 w.2 = (d', .error f)

theorem halted_of_perform {d d' : Disk} {steps : List Step} {f : Fault}
    (h : perform d steps = (d', .error f)) : ∃ done failed rest,
      Halted d steps f d' done failed rest := by
  induction steps generalizing d with
  | nil => cases h
  | cons step steps ih =>
    cases step with
    | error f' =>
      obtain ⟨rfl, hf⟩ := Prod.mk.inj h
      obtain rfl := Except.error.inj hf
      exact ⟨[], .error f', steps, rfl, (Widened.refl d).wrote, .inl rfl⟩
    | ok w =>
      rw [perform] at h
      have hcases := overwrite_cases d w.1 w.2
      cases ho : d.overwrite w.1 w.2 with
      | mk d₁ r =>
        rw [ho] at h hcases
        rcases hcases with ⟨hok, hw⟩ | ⟨f', herr, hw⟩
        · obtain rfl : r = .ok () := hok
          obtain ⟨done, failed, rest, horder, hwrote, hcause⟩ := ih h
          refine ⟨w :: done, failed, rest, congrArg _ horder, hw.wrote.trans hwrote, ?_⟩
          rcases hcause with hcause | ⟨x, before, hx, hbefore, hrefused⟩
          · exact .inl hcause
          · exact .inr ⟨x, before, hx, hw.wrote.trans hbefore, hrefused⟩
        · obtain rfl : r = .error f' := herr
          obtain ⟨rfl, hf⟩ := Prod.mk.inj h
          obtain rfl := Except.error.inj hf
          exact ⟨[], .ok w, steps, rfl, hw.wrote, .inr ⟨w, d, rfl, (Widened.refl d).wrote, ho⟩⟩

/-- **A writing that fails** has changed nothing if it is not known where the generated files go.
Else it has made the writes before the failing one, and only these. -/
theorem halted_of_write {d d' : Disk} {s : Settings} {u : UiUnit} {interactor test : Text}
    {modified : List Text} {f : Fault}
    (h : write d s u interactor test modified = (d', .error f)) :
    (pathsOf s u = .error f ∧ d' = d) ∨
      s.isDryRun = false ∧ ∃ paths done failed rest, pathsOf s u = .ok paths ∧
        Halted d (steps u paths interactor test modified) f d' done failed rest := by
  cases hpaths : pathsOf s u with
  | error f' =>
    rw [write, hpaths] at h
    obtain ⟨rfl, hf⟩ := Prod.mk.inj h
    exact .inl ⟨hf, rfl⟩
  | ok paths =>
    cases hdry : s.isDryRun with
    | true =>
      rw [write, hpaths] at h
      dsimp only at h
      rw [hdry, if_pos rfl] at h
      cases congrArg Prod.snd h
    | false =>
      rw [write_eq_perform hpaths hdry] at h
      cases hp : perform d (steps u paths interactor test modified) with
      | mk d₁ r =>
        rw [hp] at h
        cases r with
        | ok _ => cases congrArg Prod.snd h
        | error f' =>
          obtain ⟨rfl, hf⟩ := Prod.mk.inj h
          obtain rfl := Except.error.inj hf
          obtain ⟨done, failed, rest, hhalted⟩ := halted_of_perform hp
          exact .inr ⟨rfl, paths, done, failed, rest, rfl, hhalted⟩

/-- A workspace in which there is a directory where the test of a widget is to go. -/
def blockedDisk : Disk :=
  { entries := Table.ofList [("/src", .directory), ("/src/Body.tsx", .file (Text.encode "old")),
      ("/packages", .directory), ("/packages/platform-test", .directory),
      ("/packages/platform-test/e2e", .directory), ("/packages/platform-test/e2e/pages", .directory),
      ("/packages/platform-test/e2e/pages/target", .directory),
      ("/packages/platform-test/e2e/pages/target/foo.spec.ts", .directory)] }

/-- The widget, with another text of its source than there is in the file. -/
def blockedUnit : UiUnit := {
  kind := .widget
  name := "Foo"
  category := "target"
  root := "src"
  declaredId := none
  displayName := none
  sources := Table.ofList [("Body".toList, "new".toList)]
  paths := Table.ofList [("Body".toList, "src/Body.tsx".toList)]
  route := none
  tabs := []
  located := by decide }

/-- What comes of the writing for this widget. -/
def blocked : Disk × Except Fault Paths :=
  write blockedDisk {} blockedUnit "i" "t" ["src/Body.tsx"]

theorem blocked_fails : ∃ f, blocked.2 = .error f := by
  have h : blocked.2.toOption = none := by decide +kernel
  cases hr : blocked.2 with
  | error f => exact ⟨f, rfl⟩
  | ok paths =>
    rw [hr] at h
    cases h

/-- **A writing that fails leaves what was written before**: the source has its new text, there is an
interactor, and there is no test. -/
theorem write_leaves_half : (∃ f, blocked.2 = .error f) ∧
    (pathsOf {} blockedUnit).toOption = some {
      interactor := .ofText "packages/platform-test/POM/objects/widgets/Foo/fooSection.ts"
      test := .ofText "packages/platform-test/e2e/pages/target/foo.spec.ts" } ∧
    blockedDisk.fileAt? ["src", "Body.tsx"] = some (Text.encode "old") ∧
    blocked.1.fileAt? ["src", "Body.tsx"] = some (Text.encode "new") ∧
    blockedDisk.fileAt? ["packages", "platform-test", "POM", "objects", "widgets", "Foo",
      "fooSection.ts"] = none ∧
    blocked.1.fileAt? ["packages", "platform-test", "POM", "objects", "widgets", "Foo",
      "fooSection.ts"] = some (Text.encode "i") ∧
    blocked.1.fileAt? ["packages", "platform-test", "e2e", "pages", "target", "foo.spec.ts"] =
      none := by
  refine ⟨blocked_fails, ?_⟩
  decide +kernel

/-- The case of this widget. -/
theorem halted_of_write_blocked : ∃ f paths done failed rest, blocked.2 = .error f ∧
    pathsOf {} blockedUnit = .ok paths ∧
    Halted blockedDisk (steps blockedUnit paths "i" "t" ["src/Body.tsx"]) f blocked.1 done failed
      rest := by
  obtain ⟨f, hf⟩ := blocked_fails
  rcases halted_of_write (Prod.ext rfl hf : blocked = (blocked.1, .error f)) with
    ⟨hpaths, -⟩ | ⟨-, paths, done, failed, rest, hpaths, hhalted⟩
  · have h : (pathsOf {} blockedUnit).toOption.isSome = true := by decide +kernel
    rw [hpaths] at h
    cases h
  · exact ⟨f, paths, done, failed, rest, hf, hpaths, hhalted⟩

end UiHarness.Artifact
