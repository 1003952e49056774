import UiHarness.Command.Summary
import UiHarness.Proofs.Generation.Contents
import UiHarness.Proofs.Generation.Faults

/-!
# The requests that are made for a unit

Three requests are made for a unit: for an analysis, for an interactor and for a test.  Each of them
needs what came of the one before it.  So the requests of a run are the first ones of these three,
none is made twice, and none is made behind one that failed.  What can fail in between fails the
unit, and so no request is made behind it either; a primary source that cannot be read is such a
case, and it is met between the first request and the second one.

* `Generation.script`: the requests for a unit, and what their prompts may be.
* `Generation.asks_prepare`, `Generation.asks_serve`: serving a unit follows its script.
* `Generation.Course`, `Generation.course`: what is known of the requests of a run.
-/

namespace UiHarness

open Service (Cue Request Part Whole)
open UiHarness.Except (failsOnly_ok failsOnly_error)
open Disk

/-- A fault that serving a unit may have of its own: one that does not stop the program, or what the
facts of the unit are not fit for. -/
def UiUnit.MayFail (u : UiUnit) (f : Fault) : Prop := f.IsOrdinary ∨ ∃ use, (use, f) ∈ u.misfits

theorem UiUnit.mayFail_of_check {u : UiUnit} {use : UnitUse} {f : Fault}
    (h : u.check use = .error f) : u.MayFail f := by
  rw [check] at h
  split at h
  · rename_i use' g hfind
    exact .inr ⟨use', Except.error.inj h ▸ List.mem_of_find?_eq_some hfind⟩
  · cases h

/-- A result of a job is one that it gives. -/
theorem Job.Asks.gives {α : Type} {may : Fault → Prop} {script : List Cue} {job : Job α}
    {result : α → List Text → Prop} (h : Job.Asks may script result job) :
    Job.Asks may script (fun a texts => result a texts ∧ job.Gives a) job := by
  intro s
  obtain ⟨calls, hcalls⟩ := h s
  refine ⟨calls, hcalls.mirrors, hcalls.part, fun a ha => ?_, hcalls.fault⟩
  obtain ⟨texts, hwhole, hresult⟩ := hcalls.whole a ha
  exact ⟨texts, hwhole, hresult, s, (job.outcome s).2, Prod.ext ha rfl⟩

/-- Whether an analysis is that of a page. -/
def Analysis.isPage : Analysis → Bool
  | page _ => true
  | widget _ => false

namespace Generation

/-! ## 1.  The script of a unit -/

/-- What the hooks leave of a unit: all of it if the settings say not to give any, and else what
comes of its sources. -/
def Hooked (s : Settings) (u u' : UiUnit) (hooks : Hook.Summary) : Prop :=
  (s.skipsHooks.isTrue = true ∧ u' = u ∧ hooks = {}) ∨
    (s.skipsHooks.isTrue = false ∧ ∃ p, Hook.result u s.isDryRun = .ok p ∧
      u' = u.updated p.updates ∧ hooks = p.summary)

/-- Hooks leave all facts of a unit. -/
theorem Hooked.facts {s : Settings} {u u' : UiUnit} {hooks : Hook.Summary}
    (h : Hooked s u u' hooks) : u'.isPage = u.isPage ∧ u'.misfits = u.misfits := by
  rcases h with ⟨-, rfl, -⟩ | ⟨-, p, -, rfl, -⟩
  · exact ⟨rfl, rfl⟩
  · exact ⟨rfl, rfl⟩

/-- What the service is told when it is to write an interactor. -/
def interactorRole (u : UiUnit) : Text :=
  if u.isPage then Prompt.pageInteractorRole else Prompt.widgetInteractorRole

/-- What the service is told when it is to write a test. -/
def testRole (u : UiUnit) : Text :=
  if u.isPage then Prompt.pageTestRole else Prompt.widgetTestRole

/-- The prompt for an interactor. -/
def interactorPrompt (u : UiUnit) (examples : Artifact.Examples) : Analysis → Text
  | .page a => Prompt.pageInteractor u a examples
  | .widget a => Prompt.widgetInteractor u a examples

/-- The request for an analysis. -/
def analysisCue (u : UiUnit) : Cue :=
  { role := Prompt.analysisRole u, allows := fun prompt => prompt = Prompt.analysis u }

/-- The request for an interactor.  It shows the unit with its hooks. -/
def interactorCue (s : Settings) (u : UiUnit) : Cue :=
  { role := interactorRole u
    allows := fun prompt => ∃ u' hooks examples a, Hooked s u u' hooks ∧ a.isPage = u.isPage ∧
      prompt = interactorPrompt u' examples a }

/-- The request for a test. -/
def testCue (u : UiUnit) : Cue := { role := testRole u, allows := fun _ => True }

/-- The requests for a unit. -/
def script (s : Settings) (u : UiUnit) : List Cue := [analysisCue u, interactorCue s u, testCue u]

/-- What the service is told for a unit: about analyses, about interactors and about tests of units
of its kind. -/
def roles (u : UiUnit) : List Text := [Prompt.analysisRole u, interactorRole u, testRole u]

theorem map_role_script (s : Settings) (u : UiUnit) : (script s u).map Cue.role = roles u := rfl

/-- The three requests are told apart by what the service is told. -/
theorem nodup_roles (u : UiUnit) : (roles u).Nodup := by
  unfold roles Prompt.analysisRole interactorRole testRole
  cases u.isPage
  · decide +kernel
  · decide +kernel

/-! ## 2.  The steps -/

variable {s : Settings} {u : UiUnit}

theorem isPage_of_analysisOf {reply : Text} {a : Analysis} (h : analysisOf u reply = .ok a) :
    a.isPage = u.isPage := by
  obtain ⟨payload, -, h⟩ := Except.bind_eq_ok.1 h
  split at h
  · rename_i hpage
    obtain ⟨found, -, h⟩ := Except.bind_eq_ok.1 h
    cases found with
    | none => exact Except.ok.inj h ▸ hpage.symm
    | some a => exact Except.ok.inj h ▸ hpage.symm
  · rename_i hpage
    dsimp only at h
    split at h
    · exact Except.ok.inj h ▸ (Bool.not_eq_true _ ▸ hpage).symm
    · exact Except.ok.inj h ▸ (Bool.not_eq_true _ ▸ hpage).symm

theorem asks_check (use : UnitUse) :
    Job.Asks u.MayFail [] (fun _ texts => texts = []) (Job.ofExcept (u.check use)) :=
  (Job.asks_ofExcept fun _ => u.mayFail_of_check).imp fun _ _ h => h.2

theorem asks_request (m : ModelSettings) {role prompt : Text} {cue : Cue}
    (hrole : role = cue.role) (hprompt : cue.allows prompt) (maxTokens : Value) :
    Job.Asks u.MayFail [cue] (fun t texts => texts = [t]) (Job.request m role prompt maxTokens) :=
  Job.asks_request hrole hprompt maxTokens fun environment f h =>
    .inl (Job.ordinary_keyIn m environment f h)

/-- An analysis is that of the reply. -/
theorem asks_analyze (m : ModelSettings) (u : UiUnit) :
    Job.Asks u.MayFail [analysisCue u]
      (fun a texts => ∃ t, texts = [t] ∧ analysisOf u t = .ok a) (analyze m u) := by
  refine (asks_request m rfl rfl _).bind [] fun t texts ht => ?_
  refine (Job.asks_ofExcept fun f hf => .inl (ordinary_analysisOf u t f hf)).imp
    fun a texts' h => ?_
  exact ⟨t, by rw [ht, h.2, List.append_nil], h.1⟩

theorem asks_reportAnalysis (a : Analysis) :
    Job.Asks u.MayFail [] (fun _ texts => texts = []) (reportAnalysis a) := by
  cases a with
  | widget a => exact Job.asks_say _
  | page a =>
    refine (Job.asks_say _).next fun _ => ?_
    split
    · exact Job.asks_pure rfl
    · exact (Job.asks_ofExcept fun f hf => .inl (Value.ordinary_joined _ _ f hf)).after
        fun _ _ => Job.asks_say _

/-- Hooks ask nothing of the service. -/
theorem asks_giveHooks (s : Settings) (u : UiUnit) :
    Job.Asks u.MayFail [] (fun r texts => Hooked s u r.1 r.2 ∧ texts = []) (giveHooks s u) := by
  have hsilent : Job.Asks u.MayFail [] (fun _ texts => texts = []) (giveHooks s u) := by
    unfold giveHooks
    split
    · exact Job.asks_pure rfl
    · refine (asks_check .hooks).next fun _ => ?_
      refine (Job.asks_report fun f hf => .inl (Hook.ordinary_inject u _ _ f hf)).after
        fun r _ => ?_
      have hlast : Job.Asks u.MayFail [] (fun _ texts => texts = [])
          (Job.sayIf (s.isVerbose && 0 < r.2.1.applied)
            ("  Added " ++ Text.ofNat r.2.1.applied ++ " data-testid(s) in " ++
              Text.ofNat r.2.1.modified.length ++ " file(s)") >>= fun _ => pure (r.1, r.2.1)) :=
        (Job.asks_sayIf _ _).next fun _ => Job.asks_pure rfl
      dsimp only
      split
      · exact (asks_check .hookIds).next fun _ => hlast
      · exact hlast
  exact hsilent.gives.imp fun r _ h => ⟨cases_of_giveHooks h.2, h.1⟩

theorem asks_code (m : ModelSettings) {role prompt : Text} {cue : Cue} (hrole : role = cue.role)
    (hprompt : cue.allows prompt) :
    Job.Asks u.MayFail [cue] (fun code texts => ∃ t, texts = [t] ∧ code = Fence.code language t)
      (code m role prompt) :=
  (asks_request m hrole hprompt .null).bind [] fun t _ ht =>
    Job.asks_pure ⟨t, by rw [ht, List.append_nil], rfl⟩

theorem asks_interactor (m : ModelSettings) {u' : UiUnit} {hooks : Hook.Summary}
    (examples : Artifact.Examples) {a : Analysis} (hhooks : Hooked s u u' hooks)
    (ha : a.isPage = u.isPage) :
    Job.Asks u.MayFail [interactorCue s u]
      (fun code texts => ∃ t, texts = [t] ∧ code = Fence.code language t)
      (interactor m u' examples a) := by
  have hprompt : (interactorCue s u).allows (interactorPrompt u' examples a) :=
    ⟨u', hooks, examples, a, hhooks, ha, rfl⟩
  cases a with
  | page a =>
    refine asks_code m ?_ hprompt
    rw [interactorCue, interactorRole, ← ha]
    rfl
  | widget a =>
    refine asks_code m ?_ hprompt
    rw [interactorCue, interactorRole, ← ha]
    rfl

theorem asks_test (m : ModelSettings) (u' : UiUnit) (code : Text) (examples : Artifact.Examples)
    {a : Analysis} (ha : a.isPage = u.isPage) :
    Job.Asks u.MayFail [testCue u]
      (fun code texts => ∃ t, texts = [t] ∧ code = Fence.code language t)
      (test m u' code examples a) := by
  cases a with
  | page a =>
    refine asks_code m ?_ trivial
    rw [testCue, testRole, ← ha]
    rfl
  | widget a =>
    refine asks_code m ?_ trivial
    rw [testCue, testRole, ← ha]
    rfl

/-- The steps from the hooks on ask for an interactor and then for a test. -/
theorem asks_prepareFrom {analysis : Analysis} (ha : analysis.isPage = u.isPage) :
    Job.Asks u.MayFail [interactorCue s u, testCue u]
      (fun w texts => ∃ first second, texts = [first, second] ∧ w.analysis = analysis ∧
        w.interactor = Fence.code language first ∧ w.test = Fence.code language second)
      (prepareFrom s u analysis) := by
  refine (asks_giveHooks s u).after fun r hr => ?_
  obtain ⟨u', hooks⟩ := r
  have hfacts := hr.facts
  have hmay : u'.MayFail = u.MayFail := by
    unfold UiUnit.MayFail
    rw [hfacts.2]
  refine Job.asks_disk.next fun d => ?_
  refine (Job.asks_ofExcept fun f hf => .inl (Artifact.ordinary_examplesFor d s u' f hf)).after
    fun examples _ => ?_
  refine (Job.asks_sayIf _ _).next fun _ => ?_
  refine (asks_interactor s.model examples hr ha).bind [testCue u]
    fun interactor texts hinteractor => ?_
  obtain ⟨first, rfl, hfirst⟩ := hinteractor
  refine (Job.asks_sayIf _ _).next fun _ => (hmay ▸ asks_check .test).next fun _ => ?_
  refine (asks_test s.model u' interactor examples ha).bind []
    fun test texts htest => ?_
  obtain ⟨second, rfl, hsecond⟩ := htest
  refine (hmay ▸ asks_check .writing).next fun _ => ?_
  exact Job.asks_pure ⟨first, second, rfl, rfl, hfirst, hsecond⟩

/-- If the hooks are sure to fail, nothing is asked for behind them. -/
theorem asks_prepareFrom_of_result {f : Fault} (hskips : s.skipsHooks.isTrue = false)
    (hresult : Hook.result u s.isDryRun = .error f) (analysis : Analysis) :
    Job.Asks u.MayFail [] (fun _ _ => False) (prepareFrom s u analysis) := by
  refine (asks_giveHooks s u).bind [] fun r texts h => ?_
  rcases h.1 with ⟨hskips', -, -⟩ | ⟨-, p, hp, -, -⟩
  · rw [hskips] at hskips'
    cases hskips'
  · rw [hresult] at hp
    cases hp

/-- The steps up to the hooks ask for an analysis, and the other steps follow their own script. -/
theorem asks_prepare_of {script : List Cue} {result : Prepared → List Text → Prop}
    (hfrom : ∀ reply analysis, analysisOf u reply = .ok analysis →
      Job.Asks u.MayFail script (fun w texts => result w (reply :: texts))
        (prepareFrom s u analysis)) :
    Job.Asks u.MayFail (analysisCue u :: script) result (prepare s u) := by
  refine (asks_check .analysis).next fun _ => ?_
  refine (asks_analyze s.model u).bind script fun analysis texts h => ?_
  obtain ⟨reply, rfl, hanalysis⟩ := h
  have hrest := hfrom reply analysis hanalysis
  have hreported : Job.Asks u.MayFail script (fun w texts => result w (reply :: texts))
      (if s.isVerbose = true then reportAnalysis analysis >>= fun _ => prepareFrom s u analysis
        else prepareFrom s u analysis) := by
    split
    · exact (asks_reportAnalysis analysis).next fun _ => hrest
    · exact hrest
  dsimp only
  split
  · exact (asks_check .words).next fun _ => hreported
  · exact hreported

/-- What is ready for a unit was made of three replies. -/
def MadeOf (u : UiUnit) (w : Prepared) (texts : List Text) : Prop :=
  ∃ reply first second, texts = [reply, first, second] ∧ analysisOf u reply = .ok w.analysis ∧
    w.interactor = Fence.code language first ∧ w.test = Fence.code language second

/-- **Preparing a unit follows its script.** -/
theorem asks_prepare (s : Settings) (u : UiUnit) :
    Job.Asks u.MayFail (script s u) (MadeOf u) (prepare s u) := by
  refine asks_prepare_of fun reply analysis h => ?_
  refine (asks_prepareFrom (isPage_of_analysisOf h)).imp fun w texts hw => ?_
  obtain ⟨first, second, rfl, rfl, hfirst, hsecond⟩ := hw
  exact ⟨reply, first, second, rfl, h, hfirst, hsecond⟩

/-- The writing asks nothing of the service. -/
theorem asks_finish (s : Settings) (w : Prepared) :
    Job.Asks u.MayFail [] (fun served texts => served.analysis = w.analysis ∧ texts = [])
      (finish s w) := by
  have hwrite : Job.Asks u.MayFail [] (fun _ texts => texts = []) (Job.onDisk fun d =>
      Artifact.write d s w.unit w.interactor w.test w.hooks.modified) :=
    (Job.local_onDisk _).asks (fun _ _ _ => rfl) fun d f hf =>
      .inl (Artifact.ordinary_write d s w.unit w.interactor w.test w.hooks.modified f hf)
  refine hwrite.next fun paths => ?_
  split
  · exact (Job.asks_say _).next fun _ => (Job.asks_say _).next fun _ => Job.asks_pure ⟨rfl, rfl⟩
  · exact Job.asks_pure ⟨rfl, rfl⟩

/-- **Serving a unit follows its script.** -/
theorem asks_serve (s : Settings) (u : UiUnit) :
    Job.Asks u.MayFail (script s u) (fun served texts => ∃ w, MadeOf u w texts ∧
      served.analysis = w.analysis) (serve s u) := by
  rw [serve_eq]
  refine (asks_prepare s u).bind [] fun w texts hw => ?_
  refine (asks_finish s w).imp fun served texts' h => ?_
  exact ⟨w, by rw [h.2, List.append_nil]; exact hw, h.1⟩

/-! ## 3.  Primary sources that cannot be read -/

/-- A primary source with a text and a path that cannot be read. -/
structure Unreadable (u : UiUnit) (name path code : Text) (e : Syntax.SyntaxError) : Prop where
  primary : name ∈ Hook.primarySources u
  source : u.sources.get? name = some code
  located : u.paths.get? name = some path
  code_ne_nil : code ≠ []
  path_ne_nil : path ≠ []
  error : Syntax.read path code = .error e

theorem Unreadable.after {name path code : Text} {e : Syntax.SyntaxError}
    (h : Unreadable u name path code e) (trial : Bool) (p : Hook.Progress) :
    p.after u trial true name = .error (.source e) := by
  have hempty : ¬ (code.isEmpty || path.isEmpty) = true := by
    rw [Bool.or_eq_true, not_or, List.isEmpty_iff, List.isEmpty_iff]
    exact ⟨h.code_ne_nil, h.path_ne_nil⟩
  have htransform : Hook.transform (Hook.policiesOf u) u.sectionId path trial code =
      .error (.source e) := by
    unfold Hook.transform
    rw [h.error]
  rw [Hook.Progress.after, h.source, h.located, Option.getD_some, Option.getD_some,
    if_neg hempty, htransform]
  rfl

/-- Such a source is met, whatever comes before it. -/
theorem Unreadable.result {name path code : Text} {e : Syntax.SyntaxError}
    (h : Unreadable u name path code e) (trial : Bool) : ∃ f, Hook.result u trial = .error f := by
  cases hr : Hook.result u trial with
  | error f => exact ⟨f, rfl⟩
  | ok p =>
    obtain ⟨p', hprimary, -⟩ := Except.bind_eq_ok.1 hr
    refine absurd rfl (Except.foldlM_forall (P := fun a _ => a ≠ name) ?_
      (fun _ _ _ _ _ hx _ => hx) hprimary name h.primary)
    rintro a - b b' hb rfl
    rw [h.after] at hb
    cases hb

/-- **A primary source that cannot be read** leaves the request for an analysis only. -/
theorem Unreadable.asks {name path code : Text} {e : Syntax.SyntaxError}
    (h : Unreadable u name path code e) (hskips : s.skipsHooks.isTrue = false) :
    Job.Asks u.MayFail [analysisCue u] (fun _ _ => False) (serve s u) := by
  obtain ⟨f, hf⟩ := h.result s.isDryRun
  rw [serve_eq]
  have hprepare : Job.Asks u.MayFail [analysisCue u] (fun _ _ => False) (prepare s u) :=
    asks_prepare_of fun _ analysis _ => asks_prepareFrom_of_result hskips hf analysis
  exact hprepare.bind [] fun _ _ hfalse => hfalse.elim

/-! ## 4.  The course of a run -/

/-- What comes of a unit is asked for as when it is served. -/
theorem mirrors_ofUnit {session : Session} {calls : List Request}
    (h : Job.Mirrors (serve s u) (serve s u) session calls) :
    Job.Mirrors (ofUnit s u) (ofUnit s u) session calls := by
  have hattempt := h.attempt
  unfold ofUnit
  cases ha : ((Job.attempt (serve s u)).outcome session).1 with
  | error f => exact hattempt.bind_error ha
  | ok r =>
    rw [← List.append_nil calls]
    refine hattempt.bind ha ?_
    cases r with
    | ok served => exact (Job.local_pure _).mirrors (Job.local_pure _) _
    | error f =>
      have hsay := (Job.local_sayIf s.isVerbose
        ("  Error processing " ++ u.name ++ ": " ++ f.message))
      obtain ⟨lines, hlines⟩ := hsay ((Job.attempt (serve s u)).outcome session).2
      exact (hsay.mirrors hsay _).bind (congrArg Prod.fst hlines)
        ((Job.local_pure _).mirrors (Job.local_pure _) _)

/-- What is known of the requests that are made for a unit, and of what comes of it.  The replies
are those of the session, one for each request; if none is left, the request fails. -/
structure Course (s : Settings) (u : UiUnit) (session : Session) (calls : List Request) : Prop where
  asked : session.Asked ((ofUnit s u).outcome session).2 calls
  /-- The requests are the first ones of three, in their order. -/
  roles : calls.map Request.role <+: roles u
  distinct : (calls.map Request.role).Nodup
  /-- All requests but the last one have been answered with a text. -/
  answered : ∀ i, i + 1 < calls.length → ∃ t, (session.reply i).text = .ok t
  /-- A unit that was served has taken three texts, and its files hold the code of two of them. -/
  served : ∀ g served, ((ofUnit s u).outcome session).1 = .ok g → g.outcome = .ok served →
    calls.map Request.role = Generation.roles u ∧ ∃ reply first second,
      (session.reply 0).text = .ok reply ∧ (session.reply 1).text = .ok first ∧
      (session.reply 2).text = .ok second ∧ analysisOf u reply = .ok served.analysis ∧
      (s.isDryRun = false →
        Holds ((ofUnit s u).outcome session).2.disk served.paths.interactor
          (Fence.code language first) ∧
        Holds ((ofUnit s u).outcome session).2.disk served.paths.test
          (Fence.code language second))
  /-- A primary source that cannot be read ends the run behind its first request. -/
  unreadable : ∀ name path code e, Unreadable u name path code e → s.skipsHooks.isTrue = false →
    (calls ≠ [] → calls.length = 1) ∧ ∃ f, ((serve s u).outcome session).1 = .error f
  /-- A unit that was not served has a fault, and neither files nor hooks are told of. -/
  failed : ∀ g, ((ofUnit s u).outcome session).1 = .ok g → g.succeeded = false →
    ∃ f, ((serve s u).outcome session).1 = .error f ∧ g.outcome = .error f ∧
      g.error = f.message ∧ g.fileLines = [] ∧ g.hooksGiven = 0

/-- What was ready for a unit was made of the texts that serving it was followed with. -/
theorem madeOf_of_serve {session : Session} {calls : List Request} {texts : List Text}
    {served : Served} (hwhole : Whole (script s u) session.reply calls texts) {w : Prepared}
    (hw : Wrote s u session served w) : MadeOf u w texts := by
  obtain ⟨calls', hcalls'⟩ := asks_prepare s u session
  obtain ⟨texts', hwhole', hmade⟩ := hcalls'.whole w hw.prepared
  exact hwhole.unique hwhole' ▸ hmade

/-- **The requests for a unit** are the first ones of three, whatever comes of the unit. -/
theorem course (s : Settings) (u : UiUnit) (session : Session) :
    ∃ calls, Course s u session calls := by
  obtain ⟨calls, hcalls⟩ := asks_serve s u session
  have hroles := hcalls.part.roles
  rw [map_role_script] at hroles
  refine ⟨calls, (mirrors_ofUnit hcalls.mirrors).asked, hroles,
    hroles.sublist.nodup (nodup_roles u), hcalls.part.answered, ?_, ?_, ?_⟩
  · intro g served hg hserved
    have hserve : ((serve s u).outcome session).1 = .ok served := by
      rw [← (outcome_ofUnit hg).2, hserved]
    obtain ⟨texts, hwhole, w, hmade, hanalysis⟩ := hcalls.whole served hserve
    obtain ⟨w', hw'⟩ := wrote_of_serve hserve
    obtain ⟨reply, first, second, rfl, hreply, hfirst, hsecond⟩ := hmade
    have htexts := hwhole.replies
    refine ⟨hroles.eq_of_length ?_, reply, first, second, htexts 0 _ rfl, htexts 1 _ rfl,
      htexts 2 _ rfl, hanalysis ▸ hreply, fun hdry => ?_⟩
    · rw [List.length_map, hwhole.length.1]
      rfl
    · obtain ⟨reply', first', second', htexts', -, hfirst', hsecond'⟩ :=
        madeOf_of_serve hwhole hw'
      obtain ⟨rfl, rfl, rfl⟩ : reply = reply' ∧ first = first' ∧ second = second' := by
        simpa only [List.cons.injEq, and_true] using htexts'
      rw [disk_ofUnit, ← hfirst', ← hsecond']
      exact holds_of_serve hw' hdry
  · intro name path code e hunreadable hskips
    obtain ⟨calls', hcalls'⟩ := hunreadable.asks hskips session
    obtain rfl := hcalls.mirrors.asked.unique hcalls'.mirrors.asked
    refine ⟨fun hne => Nat.le_antisymm hcalls'.part.length_le (List.length_pos_iff.2 hne), ?_⟩
    cases hr : ((serve s u).outcome session).1 with
    | error f => exact ⟨f, rfl⟩
    | ok served =>
      obtain ⟨-, -, hfalse⟩ := hcalls'.whole served hr
      exact hfalse.elim
  · intro g hg hfailed
    obtain ⟨-, houtcome⟩ := outcome_ofUnit hg
    cases ho : g.outcome with
    | ok served =>
      rw [succeeded, ho] at hfailed
      cases hfailed
    | error f => exact ⟨f, houtcome.symm.trans ho, rfl, by rw [error, ho], by rw [fileLines, ho],
        by rw [hooksGiven, ho]⟩

end Generation

end UiHarness
