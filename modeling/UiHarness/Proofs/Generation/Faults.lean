import UiHarness.Generation
import UiHarness.Proofs.Detection.Faults
import UiHarness.Proofs.Hook.Progress
import UiHarness.Proofs.Session
import UiHarness.UnitEntry

/-!
# How serving a unit fails

One fault stops the whole program: an interruption by the user, which comes of a request only.  The
functions that serve a unit have many other faults of their own, but none like this.  Nor has a unit
that the program has found or read, whatever its facts are not fit for.

* `Fault.IsOrdinary`: a fault that does not stop the program.
* `Generation.ordinary_analysisOf`, `Hook.ordinary_result`, `Artifact.ordinary_write`: the functions
  that serve a unit.
* `UiUnit.Arises`: the units that a run of the program may have, and `Arises.ordinary`.
-/

namespace UiHarness

/-- A fault that does not stop the whole program. -/
def Fault.IsOrdinary (f : Fault) : Prop := f.stopsAll = false

namespace Except

variable {α β ε : Type} {P : ε → Prop}

theorem failsOnly_error {e : ε} (h : P e) : FailsOnly P (.error e : Except ε α) :=
  fun _ he => Except.error.inj he ▸ h

/-- Steps for the members of a list, one after the other. -/
theorem failsOnly_mapM {f : α → Except ε β} (h : ∀ a, FailsOnly P (f a)) (l : List α) :
    FailsOnly P (l.mapM f) := by
  induction l with
  | nil => exact failsOnly_ok _
  | cons a l ih =>
    rw [List.mapM_cons]
    exact (h a).bind fun b _ => ih.bind fun bs _ => failsOnly_ok _

end Except

open UiHarness.Except (FailsOnly failsOnly_ok failsOnly_error failsOnly_foldlM failsOnly_mapM)

/-! ## 1.  Values and replies -/

namespace Value

theorem ordinary_members (v : Value) : FailsOnly Fault.IsOrdinary v.members := by
  cases v with
  | list vs => exact failsOnly_ok _
  | table es => exact failsOnly_ok _
  | text t => exact failsOnly_ok _
  | _ => exact failsOnly_error rfl

theorem ordinary_joined (separator : Text) (vs : List Value) :
    FailsOnly Fault.IsOrdinary (joined separator vs) := by
  refine FailsOnly.bind (failsOnly_mapM (fun p => ?_) _) fun ts _ => failsOnly_ok _
  obtain ⟨v, i⟩ := p
  cases v with
  | text t => exact failsOnly_ok _
  | _ => exact failsOnly_error rfl

end Value

theorem Fence.ordinary_json (reply : Text) : FailsOnly Fault.IsOrdinary (json reply) := by
  unfold json
  split
  · exact failsOnly_ok _
  · split
    · exact failsOnly_ok _
    · exact failsOnly_ok _
    · exact failsOnly_error rfl

/-- An analysis that cannot be made of a reply does not stop the program. -/
theorem Generation.ordinary_analysisOf (u : UiUnit) (reply : Text) :
    FailsOnly Fault.IsOrdinary (analysisOf u reply) := by
  refine (Fence.ordinary_json reply).bind fun payload _ => ?_
  split
  · have htabs : FailsOnly Fault.IsOrdinary
        (PageAnalysis.tabsOf (payload.getD .null)) := by
      unfold PageAnalysis.tabsOf
      dsimp only
      split
      · exact (Value.ordinary_members _).bind fun _ _ => failsOnly_ok _
      · exact failsOnly_ok _
    have hpayload : FailsOnly Fault.IsOrdinary
        (PageAnalysis.ofPayload? (payload.getD .null)) := by
      unfold PageAnalysis.ofPayload?
      split
      · exact htabs.bind fun _ _ => failsOnly_ok _
      · exact failsOnly_ok _
    refine hpayload.bind fun a _ => ?_
    cases a with
    | none => exact failsOnly_ok _
    | some a => exact failsOnly_ok _
  · dsimp only
    split
    · exact failsOnly_ok _
    · exact failsOnly_ok _

/-! ## 2.  Hooks -/

namespace Hook

theorem ordinary_after (u : UiUnit) (trial required : Bool) (p : Progress) (name : Text) :
    FailsOnly Fault.IsOrdinary (p.after u trial required name) := by
  unfold Progress.after
  dsimp only
  split
  · exact failsOnly_ok _
  · split
    · split
      · exact failsOnly_error rfl
      · exact failsOnly_ok _
    · rename_i f _ hf
      have htransform : FailsOnly Fault.IsOrdinary (transform (policiesOf u) u.sectionId
          ((u.paths.get? name).getD []) trial ((u.sources.get? name).getD [])) := by
        unfold transform
        split
        · exact failsOnly_error rfl
        · dsimp only
          split
          · exact failsOnly_ok _
          · split
            · exact failsOnly_ok _
            · split
              · exact failsOnly_ok _
              · exact failsOnly_error rfl
      exact failsOnly_error (htransform f hf)
    · split
      · exact failsOnly_ok _
      · exact failsOnly_ok _

/-- Sources that cannot be given their hooks do not stop the program. -/
theorem ordinary_result (u : UiUnit) (trial : Bool) :
    FailsOnly Fault.IsOrdinary (result u trial) :=
  (failsOnly_foldlM (fun name _ p => ordinary_after u trial true p name) _).bind fun p _ =>
    failsOnly_foldlM (fun name _ p => ordinary_after u trial false p name) p

theorem ordinary_inject (u : UiUnit) (trial verbose : Bool) :
    FailsOnly Fault.IsOrdinary (inject u trial verbose).outcome.2 := by
  rw [(inject_ends u trial verbose).outcome]
  exact (ordinary_result u trial).bind fun p _ => failsOnly_ok _

end Hook

/-! ## 3.  Files -/

namespace Disk

theorem ordinary_contains (d : Disk) (p : Path) : FailsOnly Fault.IsOrdinary (d.contains p) :=
  fun f hf => by
    obtain ⟨path, rfl⟩ := failsOnly_contains d p f hf
    rfl

theorem ordinary_readText? (d : Disk) (p : Path) : FailsOnly Fault.IsOrdinary (d.readText? p) := by
  unfold readText?
  split
  · exact failsOnly_ok _
  · exact failsOnly_error rfl
  · exact failsOnly_ok _

theorem ordinary_settle (d : Disk) (p : Path) (why : Refusal) :
    FailsOnly Fault.IsOrdinary (d.settle p why) := by
  refine FailsOnly.bind (P := Fault.IsOrdinary) (fun f hf => ?_) fun found _ => ?_
  · obtain ⟨path, rfl⟩ := failsOnly_isDirectory d p f hf
    rfl
  · cases found with
    | false => exact failsOnly_error rfl
    | true => exact failsOnly_ok _

theorem ordinary_makeWithin (n : Nat) (d : Disk) (p : Path) :
    FailsOnly Fault.IsOrdinary (d.makeWithin n p).2 := by
  induction n generalizing p with
  | zero => exact failsOnly_error rfl
  | succ n ih =>
    have hparent := ih p.parent
    unfold makeWithin
    split
    · exact failsOnly_ok _
    · split
      · exact failsOnly_error rfl
      · cases hmade : makeWithin n d p.parent with
        | mk d' r =>
          rw [hmade] at hparent
          cases r with
          | error f => exact hparent
          | ok _ =>
            dsimp only
            split
            · exact failsOnly_ok _
            · exact ordinary_settle _ _ _
    · exact ordinary_settle _ _ _

theorem ordinary_writeText (d : Disk) (p : Path) (t : Text) :
    FailsOnly Fault.IsOrdinary (d.writeText p t) := by
  unfold writeText writeBytes
  split
  · exact failsOnly_error rfl
  · split
    · exact failsOnly_error rfl
    · exact failsOnly_ok _
    · exact failsOnly_error rfl
    · exact failsOnly_error rfl

theorem ordinary_save (d : Disk) (p : Path) (t : Text) :
    FailsOnly Fault.IsOrdinary (d.save p t).2 := by
  have hmake := ordinary_makeWithin (p.parent.parts.length + 1) d p.parent
  unfold save makeDirectory
  cases hmade : d.makeWithin (p.parent.parts.length + 1) p.parent with
  | mk d' r =>
    rw [hmade] at hmake
    cases r with
    | error f => exact hmake
    | ok _ =>
      have hwrite := ordinary_writeText d' p t
      dsimp only
      cases hw : d'.writeText p t with
      | error f =>
        rw [hw] at hwrite
        exact failsOnly_error (hwrite f rfl)
      | ok d'' => exact failsOnly_ok _

theorem ordinary_overwrite (d : Disk) (p : Path) (t : Text) :
    FailsOnly Fault.IsOrdinary (d.overwrite p t).2 := by
  unfold overwrite
  cases hc : d.contains p with
  | error f => exact failsOnly_error (ordinary_contains d p f hc)
  | ok _ => exact ordinary_save d p t

end Disk

namespace Settings

theorem ordinary_pathOf (v : Value) : FailsOnly Fault.IsOrdinary (pathOf v) := by
  cases v with
  | text t => exact failsOnly_ok _
  | _ => exact failsOnly_error rfl

theorem ordinary_resolve (s : Settings) (v : Value) : FailsOnly Fault.IsOrdinary (s.resolve v) := by
  refine (ordinary_pathOf v).bind fun p _ => ?_
  unfold inWorkspace
  split
  · exact failsOnly_ok _
  · refine FailsOnly.bind ?_ fun root _ => ?_
    · unfold workspace?
      split
      · exact (ordinary_pathOf _).bind fun _ _ => failsOnly_ok _
      · exact failsOnly_ok _
    · cases root with
      | none => exact failsOnly_ok _
      | some root => exact failsOnly_ok _

end Settings

namespace Artifact

theorem ordinary_pathsOf (s : Settings) (u : UiUnit) :
    FailsOnly Fault.IsOrdinary (pathsOf s u) := by
  unfold pathsOf
  split
  · exact (s.ordinary_resolve _).bind fun _ _ => (s.ordinary_resolve _).bind fun _ _ =>
      failsOnly_ok _
  · exact (s.ordinary_resolve _).bind fun _ _ => (s.ordinary_resolve _).bind fun _ _ =>
      failsOnly_ok _

/-- Examples that cannot be read do not stop the program. -/
theorem ordinary_examplesFor (d : Disk) (s : Settings) (u : UiUnit) :
    FailsOnly Fault.IsOrdinary (examplesFor d s u) := by
  have hread (p : Path) : FailsOnly Fault.IsOrdinary
      (d.readText? p >>= fun t => .ok (t.getD [])) :=
    (d.ordinary_readText? p).bind fun _ _ => failsOnly_ok _
  unfold examplesFor
  dsimp only
  split
  · refine (s.ordinary_resolve _).bind fun _ _ => (s.ordinary_resolve _).bind fun _ _ => ?_
    exact (hread _).bind fun _ _ => (hread _).bind fun _ _ => failsOnly_ok _
  · refine (s.ordinary_resolve _).bind fun _ _ => (s.ordinary_resolve _).bind fun _ _ => ?_
    refine (s.ordinary_resolve _).bind fun _ _ => (hread _).bind fun _ _ => ?_
    exact (hread _).bind fun _ _ => (hread _).bind fun _ _ => failsOnly_ok _

theorem ordinary_saveAll (d : Disk) (ws : List (Path × Text)) :
    FailsOnly Fault.IsOrdinary (saveAll d ws).2 := by
  induction ws generalizing d with
  | nil => exact failsOnly_ok _
  | cons w ws ih =>
    have hw := d.ordinary_overwrite w.1 w.2
    rw [saveAll]
    cases ho : d.overwrite w.1 w.2 with
    | mk d' r =>
      rw [ho] at hw
      cases r with
      | error f => exact hw
      | ok _ => exact ih d'

theorem ordinary_saveSources (d : Disk) (u : UiUnit) (modified : List Text) :
    FailsOnly Fault.IsOrdinary (saveSources d u modified).2 := by
  induction modified generalizing d with
  | nil => exact failsOnly_ok _
  | cons path rest ih =>
    rw [saveSources]
    split
    · rename_i f hf
      refine failsOnly_error ?_
      unfold sourceAt at hf
      split at hf
      · cases hf
      · split at hf
        · cases hf
        · exact Except.error.inj hf ▸ rfl
    · exact ih d
    · rename_i t ht
      have hw := d.ordinary_overwrite (.ofText path) t
      cases ho : d.overwrite (.ofText path) t with
      | mk d' r =>
        rw [ho] at hw
        cases r with
        | error f => exact hw
        | ok _ => exact ih d'

/-- A writing that fails does not stop the program. -/
theorem ordinary_write (d : Disk) (s : Settings) (u : UiUnit) (interactor test : Text)
    (modified : List Text) :
    FailsOnly Fault.IsOrdinary (write d s u interactor test modified).2 := by
  unfold write
  cases hpaths : pathsOf s u with
  | error f => exact failsOnly_error (ordinary_pathsOf s u f hpaths)
  | ok paths =>
    dsimp only
    split
    · exact failsOnly_ok _
    · have hsources := ordinary_saveSources d u modified
      cases hs : saveSources d u modified with
      | mk d' r =>
        rw [hs] at hsources
        cases r with
        | error f => exact failsOnly_error (hsources f rfl)
        | ok _ =>
          have hall := ordinary_saveAll d' [(paths.interactor, interactor), (paths.test, test)]
          dsimp only
          cases ha : saveAll d' [(paths.interactor, interactor), (paths.test, test)] with
          | mk d'' r =>
            rw [ha] at hall
            cases r with
            | error f => exact failsOnly_error (hall f rfl)
            | ok _ => exact failsOnly_ok _

end Artifact

/-! ## 4.  Units -/

theorem Job.ordinary_keyIn (m : ModelSettings) (environment : List (Text × Text)) :
    FailsOnly Fault.IsOrdinary (keyIn m environment) := by
  unfold keyIn
  split
  · split
    · exact failsOnly_ok _
    · exact failsOnly_error rfl
  · exact failsOnly_error rfl

namespace UnitEntry

/-- Faults that are ordinary, if there are any. -/
def Ordinary (found : Option Fault) : Prop := ∀ f, found = some f → f.IsOrdinary

theorem Ordinary.orElse {a b : Option Fault} (ha : Ordinary a) (hb : Ordinary b) :
    Ordinary (a <|> b) := by
  cases a with
  | none => exact hb
  | some f => exact ha

end UnitEntry

end UiHarness
