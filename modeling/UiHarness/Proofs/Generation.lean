import UiHarness.Generation
import UiHarness.Proofs.Artifact

/-!
# Serving units, step by step

All steps for a unit but the last one leave the files alone, and the last one makes the writes of
the unit.  So a run over several units is a run of writes, and each unit has its part of it.

* `Generation.prepare`: all steps for a unit up to the writing.
* `Generation.serve_eq`: serving a unit is preparing it and then writing.
* `Generation.madeBy`: the writes that are made for a unit.
* `Generation.trace`: those of several units, in the order of the units.
* `Generation.ofUnitsFrom_at`: what is known of one of several units.
* `Generation.LastWrite`: which of several units has written to a place last.
-/

namespace UiHarness

namespace Job

variable {α β : Type}

/-- A result of a job, whatever the session. -/
def Gives (job : Job α) (a : α) : Prop := ∃ s s', job.outcome s = (.ok a, s')

@[simp] theorem gives_pure {a b : α} : (pure a : Job α).Gives b ↔ a = b := by
  constructor
  · rintro ⟨s, s', h⟩
    exact Except.ok.inj (congrArg Prod.fst h)
  · rintro rfl
    exact ⟨{ disk := {} }, { disk := {} }, rfl⟩

theorem Gives.bind {x : Job α} {f : α → Job β} {b : β} (h : (x >>= f).Gives b) :
    ∃ a, x.Gives a ∧ (f a).Gives b := by
  obtain ⟨s, s', h⟩ := h
  rw [outcome_bind] at h
  cases hx : x.outcome s with
  | mk r s'' =>
    rw [hx] at h
    cases r with
    | error e => cases congrArg Prod.fst h
    | ok a => exact ⟨a, ⟨s, s'', hx⟩, s'', s', h⟩

/-- What a step gives that reports lines. -/
theorem gives_of_report {step : Reporting α} {a : α} (h : (report step).Gives a) :
    step.Gives a := by
  obtain ⟨s, s', h⟩ := h
  exact Reporting.gives_of_outcome (congrArg Prod.fst h)

end Job

namespace Generation

open Disk

/-! ## 1.  Preparing -/

/-- What is ready to be written for a unit. -/
structure Prepared where
  analysis : Analysis
  /-- The unit with its hooks. -/
  unit : UiUnit
  hooks : Hook.Summary
  /-- The code of the interactor. -/
  interactor : Text
  /-- The code of the test. -/
  test : Text

/-- The steps for a unit from its hooks on, up to the writing. -/
def prepareFrom (s : Settings) (u : UiUnit) (analysis : Analysis) : Job Prepared := do
  let (u, hooks) ← giveHooks s u
  let examples ← Job.ofExcept (Artifact.examplesFor (← Job.disk) s u)
  Job.sayIf (u.isPage && s.isVerbose) "  Generating interactor..."
  let interactor ← interactor s.model u examples analysis
  Job.sayIf (u.isPage && s.isVerbose) "  Generating tests..."
  Job.ofExcept (u.check .test)
  let test ← test s.model u interactor examples analysis
  Job.ofExcept (u.check .writing)
  return { analysis, unit := u, hooks, interactor, test }

/-- All steps for a unit up to the writing. -/
def prepare (s : Settings) (u : UiUnit) : Job Prepared := do
  Job.ofExcept (u.check .analysis)
  let analysis ← analyze s.model u
  if analysis.isFromWords then Job.ofExcept (u.check .words)
  if s.isVerbose then reportAnalysis analysis
  prepareFrom s u analysis

/-- The writing for a unit. -/
def finish (s : Settings) (w : Prepared) : Job Served := do
  let paths ← Job.onDisk fun d =>
    Artifact.write d s w.unit w.interactor w.test w.hooks.modified
  if s.isVerbose && !s.isDryRun then
    Job.say ("  Written: " ++ paths.interactor.text)
    Job.say ("  Written: " ++ paths.test.text)
  return { analysis := w.analysis, hooks := w.hooks, paths }

/-- **Serving a unit is preparing it and then writing.** -/
theorem serve_eq (s : Settings) (u : UiUnit) : serve s u = prepare s u >>= finish s := by
  unfold serve prepare
  rw [bind_assoc]
  refine bind_congr fun _ => ?_
  rw [bind_assoc]
  refine bind_congr fun analysis => ?_
  by_cases hwords : analysis.isFromWords = true
  · by_cases hverbose : s.isVerbose = true
    · simp only [hwords, hverbose, if_true, prepareFrom, finish, bind_assoc, pure_bind]
    · simp only [hwords, hverbose, if_true, Bool.false_eq_true, if_false, prepareFrom, finish,
        bind_assoc, pure_bind]
  · by_cases hverbose : s.isVerbose = true
    · simp only [hwords, hverbose, if_true, Bool.false_eq_true, if_false, prepareFrom, finish,
        bind_assoc, pure_bind]
    · simp only [hwords, hverbose, Bool.false_eq_true, if_false, prepareFrom, finish, bind_assoc,
        pure_bind]

/-! ## 2.  What preparing leaves alone -/

theorem quiet_analyze (m : ModelSettings) (u : UiUnit) : (analyze m u).Quiet :=
  (Job.quiet_request _ _ _ _).bind fun _ => Job.quiet_ofExcept _

theorem quiet_reportAnalysis (a : Analysis) : (reportAnalysis a).Quiet := by
  cases a with
  | widget a => exact Job.quiet_say _
  | page a =>
    refine (Job.quiet_say _).bind fun _ => ?_
    split
    · exact Job.quiet_pure _
    · exact (Job.quiet_ofExcept _).bind fun _ => Job.quiet_say _

theorem quiet_giveHooks (s : Settings) (u : UiUnit) : (giveHooks s u).Quiet := by
  unfold giveHooks
  split
  · exact Job.quiet_pure _
  · refine (Job.quiet_ofExcept _).bind fun _ => (Job.quiet_report _).bind fun r => ?_
    have hlast := (Job.quiet_sayIf (s.isVerbose && 0 < r.2.1.applied)
      ("  Added " ++ Text.ofNat r.2.1.applied ++ " data-testid(s) in " ++
        Text.ofNat r.2.1.modified.length ++ " file(s)")).bind
      fun _ => Job.quiet_pure (r.1, r.2.1)
    dsimp only
    split
    · exact (Job.quiet_ofExcept _).bind fun _ => hlast
    · exact hlast

theorem quiet_code (m : ModelSettings) (role prompt : Text) : (code m role prompt).Quiet :=
  (Job.quiet_request _ _ _ _).bind fun _ => Job.quiet_pure _

theorem quiet_interactor (m : ModelSettings) (u : UiUnit) (examples : Artifact.Examples)
    (a : Analysis) : (interactor m u examples a).Quiet := by
  cases a with
  | widget a => exact quiet_code _ _ _
  | page a => exact quiet_code _ _ _

theorem quiet_test (m : ModelSettings) (u : UiUnit) (interactor : Text)
    (examples : Artifact.Examples) (a : Analysis) : (test m u interactor examples a).Quiet := by
  cases a with
  | widget a => exact quiet_code _ _ _
  | page a => exact quiet_code _ _ _

theorem quiet_prepareFrom (s : Settings) (u : UiUnit) (analysis : Analysis) :
    (prepareFrom s u analysis).Quiet := by
  refine (quiet_giveHooks s u).bind fun r => Job.quiet_disk.bind fun d => ?_
  refine (Job.quiet_ofExcept _).bind fun examples => (Job.quiet_sayIf _ _).bind fun _ => ?_
  refine (quiet_interactor _ _ _ _).bind fun interactor => (Job.quiet_sayIf _ _).bind fun _ => ?_
  refine (Job.quiet_ofExcept _).bind fun _ => (quiet_test _ _ _ _ _).bind fun test => ?_
  exact (Job.quiet_ofExcept _).bind fun _ => Job.quiet_pure _

/-- **Preparing a unit leaves the files alone.** -/
theorem quiet_prepare (s : Settings) (u : UiUnit) : (prepare s u).Quiet := by
  refine (Job.quiet_ofExcept _).bind fun _ => (quiet_analyze _ _).bind fun analysis => ?_
  have hfrom : (if s.isVerbose = true then reportAnalysis analysis >>= fun _ =>
      prepareFrom s u analysis else prepareFrom s u analysis).Quiet := by
    split
    · exact (quiet_reportAnalysis analysis).bind fun _ => quiet_prepareFrom s u analysis
    · exact quiet_prepareFrom s u analysis
  dsimp only
  split
  · exact (Job.quiet_ofExcept _).bind fun _ => hfrom
  · exact hfrom

/-- **What the hooks of a unit leave of it**: all of it if the settings say not to give any, and
else what comes of its sources. -/
theorem cases_of_giveHooks {s : Settings} {u u' : UiUnit} {hooks : Hook.Summary}
    (h : (giveHooks s u).Gives (u', hooks)) :
    (s.skipsHooks.isTrue = true ∧ u' = u ∧ hooks = {}) ∨
      (s.skipsHooks.isTrue = false ∧ ∃ p, Hook.result u s.isDryRun = .ok p ∧
        u' = u.updated p.updates ∧ hooks = p.summary) := by
  unfold giveHooks at h
  split at h
  · rename_i hskips
    obtain ⟨rfl, rfl⟩ := Prod.mk.inj (Job.gives_pure.1 h)
    exact .inl ⟨hskips, rfl, rfl⟩
  · rename_i hskips
    obtain ⟨_, -, h⟩ := h.bind
    obtain ⟨⟨v, summary, reports⟩, hr, h⟩ := h.bind
    have hlast : v = u' ∧ summary = hooks := by
      dsimp only at h
      split at h
      · obtain ⟨_, -, h⟩ := h.bind
        obtain ⟨_, -, h⟩ := h.bind
        exact Prod.mk.inj (Job.gives_pure.1 h)
      · obtain ⟨_, -, h⟩ := h.bind
        exact Prod.mk.inj (Job.gives_pure.1 h)
    obtain ⟨rfl, rfl⟩ := hlast
    obtain ⟨p, hp, hrest⟩ := Hook.inject_gives_iff.1 (Job.gives_of_report hr)
    exact .inr ⟨Bool.eq_false_iff.2 hskips, p, hp, hrest.1, hrest.2.1⟩

theorem giveHooks_of_prepareFrom {s : Settings} {u : UiUnit} {analysis : Analysis} {w : Prepared}
    (h : (prepareFrom s u analysis).Gives w) : (giveHooks s u).Gives (w.unit, w.hooks) := by
  obtain ⟨⟨u', hooks⟩, hhooks, h⟩ := h.bind
  obtain ⟨_, -, h⟩ := h.bind
  obtain ⟨_, -, h⟩ := h.bind
  obtain ⟨_, -, h⟩ := h.bind
  obtain ⟨_, -, h⟩ := h.bind
  obtain ⟨_, -, h⟩ := h.bind
  obtain ⟨_, -, h⟩ := h.bind
  obtain ⟨_, -, h⟩ := h.bind
  obtain ⟨_, -, h⟩ := h.bind
  obtain rfl := Job.gives_pure.1 h
  exact hhooks

/-- What is prepared for a unit holds what came of its hooks. -/
theorem giveHooks_of_prepare {s : Settings} {u : UiUnit} {w : Prepared}
    (h : (prepare s u).Gives w) : (giveHooks s u).Gives (w.unit, w.hooks) := by
  obtain ⟨_, -, h⟩ := h.bind
  obtain ⟨analysis, -, h⟩ := h.bind
  dsimp only at h
  split at h
  · obtain ⟨_, -, h⟩ := h.bind
    split at h
    · obtain ⟨_, -, h⟩ := h.bind
      exact giveHooks_of_prepareFrom h
    · exact giveHooks_of_prepareFrom h
  · split at h
    · obtain ⟨_, -, h⟩ := h.bind
      exact giveHooks_of_prepareFrom h
    · exact giveHooks_of_prepareFrom h

/-- **A unit that is prepared** is the one given, with hooks in some of its sources. -/
theorem outcome_of_prepare {s : Settings} {u : UiUnit} {w : Prepared} (h : (prepare s u).Gives w) :
    Hook.Outcome u w.unit w.hooks.modified := by
  rcases cases_of_giveHooks (giveHooks_of_prepare h) with ⟨-, hunit, hhooks⟩ |
    ⟨-, p, hp, hunit, hhooks⟩
  · rw [hunit, hhooks]
    exact Hook.outcome_refl u
  · rw [hunit, hhooks]
    exact (Hook.kept_of_result hp).outcome

/-! ## 3.  One unit -/

/-- The writes that are made for a unit. -/
def madeBy (s : Settings) (u : UiUnit) (session : Session) : List Write :=
  match (prepare s u).outcome session with
  | (.ok w, session') =>
    Artifact.written session'.disk s w.unit w.interactor w.test w.hooks.modified
  | (.error _, _) => []

/-- The writes for a unit: its sources, with hooks or without, and its generated files. -/
theorem of_mem_madeBy {s : Settings} {u : UiUnit} {session : Session} {x : Write}
    (h : x ∈ madeBy s u session) : ∃ w, ((prepare s u).outcome session).1 = .ok w ∧
      Hook.Outcome u w.unit w.hooks.modified ∧
      (x ∈ Artifact.sourceWrites w.unit w.hooks.modified ∨
        ∃ paths, Artifact.pathsOf s u = .ok paths ∧
          (x = (paths.interactor, w.interactor) ∨ x = (paths.test, w.test))) := by
  rw [madeBy] at h
  cases hp : (prepare s u).outcome session with
  | mk r session' =>
    rw [hp] at h
    cases r with
    | error f => cases h
    | ok w =>
      have houtcome := outcome_of_prepare ⟨session, session', hp⟩
      refine ⟨w, rfl, houtcome, ?_⟩
      rw [← Artifact.pathsOf_of_outcome houtcome]
      exact Artifact.of_mem_written h

/-- What is known of a unit that was served: what was prepared for it has been written. -/
structure Wrote (s : Settings) (u : UiUnit) (session : Session) (served : Served) (w : Prepared) :
    Prop where
  prepared : ((prepare s u).outcome session).1 = .ok w
  hooks : served.hooks = w.hooks
  outcome : Hook.Outcome u w.unit w.hooks.modified
  paths : Artifact.pathsOf s w.unit = .ok served.paths
  made : madeBy s u session = if s.isDryRun then [] else
    Artifact.sourceWrites w.unit w.hooks.modified ++
      [(served.paths.interactor, w.interactor), (served.paths.test, w.test)]

theorem disk_finish (s : Settings) (w : Prepared) (session : Session) :
    ((finish s w).outcome session).2.disk =
      (Artifact.write session.disk s w.unit w.interactor w.test w.hooks.modified).1 := by
  have hdisk : (Job.onDisk fun d => Artifact.write d s w.unit w.interactor w.test
      w.hooks.modified).outcome session =
      ((Artifact.write session.disk s w.unit w.interactor w.test w.hooks.modified).2,
        { session with disk := (Artifact.write session.disk s w.unit w.interactor w.test
          w.hooks.modified).1 }) := rfl
  rw [finish, Job.outcome_bind, hdisk]
  cases (Artifact.write session.disk s w.unit w.interactor w.test w.hooks.modified).2 with
  | error f => rfl
  | ok paths =>
    dsimp only
    split
    · rfl
    · rfl

theorem finish_ok {s : Settings} {w : Prepared} {session : Session} {served : Served}
    (h : ((finish s w).outcome session).1 = .ok served) :
    (Artifact.write session.disk s w.unit w.interactor w.test w.hooks.modified).2 =
      .ok served.paths ∧ served.hooks = w.hooks := by
  have hdisk : (Job.onDisk fun d => Artifact.write d s w.unit w.interactor w.test
      w.hooks.modified).outcome session =
      ((Artifact.write session.disk s w.unit w.interactor w.test w.hooks.modified).2,
        { session with disk := (Artifact.write session.disk s w.unit w.interactor w.test
          w.hooks.modified).1 }) := rfl
  rw [finish, Job.outcome_bind, hdisk] at h
  cases hw : (Artifact.write session.disk s w.unit w.interactor w.test w.hooks.modified).2 with
  | error f =>
    rw [hw] at h
    cases h
  | ok paths =>
    rw [hw] at h
    dsimp only at h
    split at h
    · obtain rfl := Except.ok.inj h
      exact ⟨rfl, rfl⟩
    · obtain rfl := Except.ok.inj h
      exact ⟨rfl, rfl⟩

/-- **The disk after serving a unit** came of the writes of the unit. -/
theorem serve_wrote (s : Settings) (u : UiUnit) (session : Session) :
    Disk.Wrote session.disk (madeBy s u session) ((serve s u).outcome session).2.disk := by
  have hquiet := quiet_prepare s u session
  rw [serve_eq, Job.outcome_bind, madeBy]
  cases hp : (prepare s u).outcome session with
  | mk r session' =>
    rw [hp] at hquiet
    cases r with
    | error f =>
      dsimp only at hquiet ⊢
      rw [hquiet]
      exact (Widened.refl _).wrote
    | ok w =>
      dsimp only at hquiet ⊢
      rw [disk_finish, hquiet]
      exact Artifact.write_wrote session.disk s w.unit w.interactor w.test w.hooks.modified

/-- **A unit that was served** was prepared, and all its writes were made. -/
theorem wrote_of_serve {s : Settings} {u : UiUnit} {session : Session} {served : Served}
    (h : ((serve s u).outcome session).1 = .ok served) : ∃ w, Wrote s u session served w := by
  rw [serve_eq, Job.outcome_bind] at h
  cases hp : (prepare s u).outcome session with
  | mk r session' =>
    rw [hp] at h
    cases r with
    | error f => cases h
    | ok w =>
      obtain ⟨hwrite, hhooks⟩ := finish_ok h
      obtain ⟨hpaths, hmade⟩ := Artifact.written_eq hwrite
      exact ⟨w, by rw [hp], hhooks, outcome_of_prepare ⟨session, session', hp⟩, hpaths, by
        rw [madeBy, hp]
        exact hmade⟩

/-- What comes of a unit is what comes of serving it. -/
theorem outcome_ofUnit {s : Settings} {u : UiUnit} {session : Session} {g : Generation}
    (h : ((ofUnit s u).outcome session).1 = .ok g) :
    g.unit = u ∧ g.outcome = ((serve s u).outcome session).1 := by
  rw [ofUnit, Job.outcome_bind, Job.outcome_attempt] at h
  cases hs : (serve s u).outcome session with
  | mk r session' =>
    rw [hs] at h
    cases r with
    | ok served =>
      obtain rfl := Except.ok.inj h
      exact ⟨rfl, rfl⟩
    | error f =>
      by_cases hstop : f.stopsAll = true
      · simp only [hstop, if_true] at h
        cases h
      · simp only [hstop, Bool.false_eq_true, if_false] at h
        obtain ⟨_, -, h⟩ := Job.Gives.bind ⟨session', _, Prod.ext h rfl⟩
        obtain rfl := Job.gives_pure.1 h
        exact ⟨rfl, rfl⟩

theorem disk_ofUnit (s : Settings) (u : UiUnit) (session : Session) :
    ((ofUnit s u).outcome session).2.disk = ((serve s u).outcome session).2.disk := by
  rw [ofUnit, Job.outcome_bind, Job.outcome_attempt]
  cases (serve s u).outcome session with
  | mk r session' =>
    cases r with
    | ok served => rfl
    | error f =>
      by_cases hstop : f.stopsAll = true
      · simp only [hstop, if_true]
      · simp only [hstop, Bool.false_eq_true, if_false]
        exact (Job.quiet_sayIf _ _).bind (fun _ => Job.quiet_pure _) session'

/-! ## 4.  Several units -/

/-- The line by which a unit is announced. -/
def announcement (count number : Nat) (u : UiUnit) : Text :=
  let label : Text := if u.isPage then "page" else "widget"
  "[" ++ Text.ofNat number ++ ['/'] ++ Text.ofNat count ++ "] Generating tests for " ++ label ++
    " " ++ u.name ++ " (" ++ u.category ++ ")..."

/-- The session in which a unit is served that is one of several. -/
def announced (count number : Nat) (u : UiUnit) (session : Session) : Session :=
  { session with lines := session.lines ++ [announcement count number u] }

/-- The sessions in which units from a number on are served, unit by unit. -/
def sessionsFrom (s : Settings) (count : Nat) : Nat → List UiUnit → Session → List Session
  | _, [], _ => []
  | number, u :: us, session =>
    announced count number u session ::
      sessionsFrom s count (number + 1) us ((ofNumbered s count number u).outcome session).2

/-- The sessions in which several units are served, unit by unit. -/
def sessions (s : Settings) (us : List UiUnit) (session : Session) : List Session :=
  sessionsFrom s us.length 1 us session

/-- The writes that are made for units from a number on, unit by unit. -/
def traceFrom (s : Settings) (count : Nat) : Nat → List UiUnit → Session → List (List Write)
  | _, [], _ => []
  | number, u :: us, session =>
    madeBy s u (announced count number u session) ::
      traceFrom s count (number + 1) us ((ofNumbered s count number u).outcome session).2

/-- The writes that are made for several units, unit by unit. -/
def trace (s : Settings) (us : List UiUnit) (session : Session) : List (List Write) :=
  traceFrom s us.length 1 us session

theorem outcome_ofNumbered (s : Settings) (count number : Nat) (u : UiUnit) (session : Session) :
    (ofNumbered s count number u).outcome session =
      ((ofUnit s u) >>= fun g => Job.say
        (if g.succeeded then "  ✓ " ++ u.name else "  ✗ " ++ u.name ++ ": " ++ g.error) >>=
          fun _ => pure g).outcome (announced count number u session) := rfl

theorem disk_ofNumbered (s : Settings) (count number : Nat) (u : UiUnit) (session : Session) :
    ((ofNumbered s count number u).outcome session).2.disk =
      ((serve s u).outcome (announced count number u session)).2.disk := by
  rw [outcome_ofNumbered, ← disk_ofUnit, Job.outcome_bind]
  cases (ofUnit s u).outcome (announced count number u session) with
  | mk r session' =>
    cases r with
    | error f => rfl
    | ok g => exact (Job.quiet_say _).bind (fun _ => Job.quiet_pure _) session'

theorem ofNumbered_ok {s : Settings} {count number : Nat} {u : UiUnit} {session : Session}
    {g : Generation} (h : ((ofNumbered s count number u).outcome session).1 = .ok g) :
    g.unit = u ∧ g.outcome = ((serve s u).outcome (announced count number u session)).1 := by
  rw [outcome_ofNumbered, Job.outcome_bind] at h
  cases ho : (ofUnit s u).outcome (announced count number u session) with
  | mk r session' =>
    rw [ho] at h
    cases r with
    | error f => cases h
    | ok g' =>
      obtain rfl : g' = g := Except.ok.inj h
      exact outcome_ofUnit (by rw [ho])

/-- One step of a run over several units. -/
theorem ofUnitsFrom_cons {s : Settings} {count number : Nat} {u : UiUnit} {us : List UiUnit}
    {session session' : Session} {gs : List Generation}
    (h : (ofUnitsFrom s count number (u :: us)).outcome session = (.ok gs, session')) :
    ∃ g gs', gs = g :: gs' ∧ ((ofNumbered s count number u).outcome session).1 = .ok g ∧
      (ofUnitsFrom s count (number + 1) us).outcome
        ((ofNumbered s count number u).outcome session).2 = (.ok gs', session') := by
  rw [ofUnitsFrom, Job.outcome_bind] at h
  cases ho : (ofNumbered s count number u).outcome session with
  | mk r session₁ =>
    rw [ho] at h
    cases r with
    | error f => cases congrArg Prod.fst h
    | ok g =>
      dsimp only at h
      rw [Job.outcome_bind] at h
      cases hr : (ofUnitsFrom s count (number + 1) us).outcome session₁ with
      | mk r session₂ =>
        rw [hr] at h
        cases r with
        | error f => cases congrArg Prod.fst h
        | ok gs' =>
          dsimp only at h
          rw [Job.outcome_pure] at h
          obtain ⟨hgs, rfl⟩ := Prod.mk.inj h
          exact ⟨g, gs', (Except.ok.inj hgs).symm, rfl, rfl⟩

/-- Each list of writes is that of one of the units. -/
theorem of_traceFrom {s : Settings} {count number : Nat} {us : List UiUnit} {session : Session}
    {j : Nat} {ws : List Write} (h : (traceFrom s count number us session)[j]? = some ws) :
    ∃ u between, us[j]? = some u ∧ ws = madeBy s u between := by
  induction us generalizing number session j with
  | nil => cases h
  | cons u us ih =>
    cases j with
    | zero => exact ⟨u, _, rfl, (Option.some.inj h).symm⟩
    | succ j => exact ih h

/-- The unit that has written to a place last, and the text that it left there. -/
structure LastWrite (s : Settings) (us : List UiUnit) (session : Session) (d' : Disk)
    (l : Location) (j : Nat) (u : UiUnit) (t : Text) : Prop where
  unit : us[j]? = some u
  text : ∃ ws, (trace s us session)[j]? = some ws ∧ d'.lastAt? l ws = some t
  later : ∀ i ws, j < i → (trace s us session)[i]? = some ws → d'.lastAt? l ws = none

/-- What is known of one of several units: in which session it was served, and that the writes from
it on lead to the disk at the end. -/
structure At (s : Settings) (d : Disk) (u : UiUnit) (g : Generation) (writes : List (List Write))
    (d' : Disk) (session : Session) : Prop where
  unit : g.unit = u
  outcome : g.outcome = ((serve s u).outcome session).1
  grown : Grown d session.disk
  first : writes.head? = some (madeBy s u session)
  wrote : Disk.Wrote session.disk writes.flatten d'

/-- **A run over several units is a run of their writes.** -/
theorem ofUnitsFrom_wrote {s : Settings} {count number : Nat} {us : List UiUnit}
    {session session' : Session} {gs : List Generation}
    (h : (ofUnitsFrom s count number us).outcome session = (.ok gs, session')) :
    Disk.Wrote session.disk (traceFrom s count number us session).flatten session'.disk := by
  induction us generalizing number session gs with
  | nil =>
    obtain ⟨-, rfl⟩ := Prod.mk.inj h
    exact (Widened.refl _).wrote
  | cons u us ih =>
    obtain ⟨g, gs', -, -, hrest⟩ := ofUnitsFrom_cons h
    have hfirst := serve_wrote s u (announced count number u session)
    rw [← disk_ofNumbered] at hfirst
    exact hfirst.trans (ih hrest)

/-- **What is known of one of several units.** -/
theorem ofUnitsFrom_at {s : Settings} {count number : Nat} {us : List UiUnit}
    {session session' : Session} {gs : List Generation}
    (h : (ofUnitsFrom s count number us).outcome session = (.ok gs, session')) {k : Nat}
    {g : Generation} (hg : gs[k]? = some g) :
    ∃ u between, us[k]? = some u ∧ (sessionsFrom s count number us session)[k]? = some between ∧
      At s session.disk u g ((traceFrom s count number us session).drop k) session'.disk between := by
  induction us generalizing number session gs k with
  | nil =>
    obtain ⟨h, -⟩ := Prod.mk.inj h
    obtain rfl := Except.ok.inj h
    cases hg
  | cons u us ih =>
    obtain ⟨g', gs', rfl, hfirst, hrest⟩ := ofUnitsFrom_cons h
    have hgrown := serve_wrote s u (announced count number u session)
    rw [← disk_ofNumbered] at hgrown
    cases k with
    | zero =>
      obtain rfl := Option.some.inj hg
      obtain ⟨hunit, houtcome⟩ := ofNumbered_ok hfirst
      exact ⟨u, announced count number u session, rfl, rfl, hunit, houtcome, Grown.refl _, rfl,
        ofUnitsFrom_wrote h⟩
    | succ k =>
      obtain ⟨v, between, hv, hbetween, hat⟩ := ih hrest hg
      exact ⟨v, between, hv, hbetween, hat.unit, hat.outcome, hgrown.toGrown.trans hat.grown, hat.first,
        hat.wrote⟩

/-- **What is at a place after several units**, if the writes from one of them on lead there: what
the last unit that wrote there has left. -/
theorem exists_lastWrite {s : Settings} {us : List UiUnit} {session : Session} {d' : Disk}
    {l : Location} {k : Nat} {t : Text}
    (h : d'.lastAt? l ((trace s us session).drop k).flatten = some t) :
    ∃ j u, k ≤ j ∧ LastWrite s us session d' l j u t := by
  obtain ⟨j, ws, hj, ht, hlater⟩ := exists_of_lastAt?_flatten h
  rw [List.getElem?_drop] at hj
  obtain ⟨u, between, hu, -⟩ := of_traceFrom hj
  refine ⟨k + j, u, Nat.le_add_right k j, hu, ⟨ws, hj, ht⟩, fun i ws' hi hws => ?_⟩
  have hk : k + (i - k) = i := by omega
  refine hlater (i - k) ws' (by omega) ?_
  rw [List.getElem?_drop, hk, hws]

end Generation

end UiHarness
