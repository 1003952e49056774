import UiHarness.Proofs.Steps

/-!
# What jobs ask of the service

A job meets little of its session: the files, the variables of the environment, and the replies to
its own requests.  So the same job comes to the same in all sessions in which these are the same,
whatever has been reported or asked before, and whatever replies are left for the jobs behind it.

A script says of each request what it may be.  A job follows a script if its requests are those of
the script, in their order and each at most once; if it makes none behind one that failed; and if it
has made them all when it succeeds.

* `Session.Asked`: a session after some requests, and `Session.reply`: the replies to them.
* `Job.Mirrors`: jobs that do the same in sessions that are alike, with `Mirrors.bind`.
* `Service.Part`, `Service.Whole`: how far a script is followed.
* `Job.Asks`: a job that follows a script, with one rule for each way to make a job.
-/

namespace UiHarness

open Service (Request Reply)

namespace Session

/-! ## 1.  Requests and replies -/

/-- The reply to the request that comes after `i` others from here on.  There may be none left. -/
def reply (s : Session) (i : Nat) : Reply := s.replies.getD i (.failure "no scripted reply")

/-- A session after some requests.  Each of them has taken a reply. -/
structure Asked (s s' : Session) (calls : List Request) : Prop where
  requests : s'.requests = s.requests ++ calls
  replies : s'.replies = s.replies.drop calls.length
  environment : s'.environment = s.environment

/-- Sessions in which the next `n` requests meet the same. -/
structure Alike (s t : Session) (n : Nat) : Prop where
  disk : t.disk = s.disk
  environment : t.environment = s.environment
  reply : ∀ i < n, t.reply i = s.reply i

theorem Asked.trans {s s' s'' : Session} {calls calls' : List Request} (h : s.Asked s' calls)
    (h' : s'.Asked s'' calls') : s.Asked s'' (calls ++ calls') where
  requests := by rw [h'.requests, h.requests, List.append_assoc]
  replies := by rw [h'.replies, h.replies, List.drop_drop, List.length_append]
  environment := h'.environment.trans h.environment

theorem Asked.reply {s s' : Session} {calls : List Request} (h : s.Asked s' calls) (i : Nat) :
    s'.reply i = s.reply (calls.length + i) := by
  rw [Session.reply, Session.reply, h.replies, List.getD_eq_getElem?_getD,
    List.getD_eq_getElem?_getD, List.getElem?_drop]

/-- The requests that were made between two sessions are known from the sessions. -/
theorem Asked.unique {s s' : Session} {calls calls' : List Request} (h : s.Asked s' calls)
    (h' : s.Asked s' calls') : calls = calls' :=
  List.append_cancel_left (h.requests.symm.trans h'.requests)

theorem Alike.refl (s : Session) (n : Nat) : s.Alike s n := ⟨rfl, rfl, fun _ _ => rfl⟩

theorem Alike.mono {s t : Session} {n m : Nat} (h : s.Alike t n) (hm : m ≤ n) : s.Alike t m :=
  ⟨h.disk, h.environment, fun i hi => h.reply i (Nat.lt_of_lt_of_le hi hm)⟩

/-- A reply that is there comes from the replies of the session, or says that none is left. -/
theorem reply_mem (s : Session) (i : Nat) :
    s.reply i ∈ s.replies ∨ s.reply i = .failure "no scripted reply" := by
  rw [reply, List.getD_eq_getElem?_getD]
  cases h : s.replies[i]? with
  | none => exact .inr rfl
  | some r => exact .inl (List.mem_of_getElem? h)

end Session

namespace Service

/-! ## 2.  Scripts -/

/-- What a request may be: one for a role, with some prompt. -/
structure Cue where
  role : Text
  /-- Whether a text may be the prompt. -/
  allows : Text → Prop

/-- A request is one that a cue calls for. -/
structure Request.Answers (call : Request) (cue : Cue) : Prop where
  role : call.role = cue.role
  prompt : cue.allows call.prompt

/-- A script that has been followed to its end, with the texts of the replies. -/
inductive Whole : List Cue → (Nat → Reply) → List Request → List Text → Prop
  | nil {reply} : Whole [] reply [] []
  | cons {cue script reply call calls t texts} (hcall : call.Answers cue)
      (ht : (reply 0).text = .ok t) (rest : Whole script (fun i => reply (i + 1)) calls texts) :
      Whole (cue :: script) reply (call :: calls) (t :: texts)

/-- A script that has been followed up to some place.  Only the last request may have failed. -/
inductive Part : List Cue → (Nat → Reply) → List Request → Prop
  | nil {script reply} : Part script reply []
  | failed {cue script reply call f} (hcall : call.Answers cue)
      (hf : (reply 0).text = .error f) : Part (cue :: script) reply [call]
  | cons {cue script reply call calls t} (hcall : call.Answers cue)
      (ht : (reply 0).text = .ok t) (rest : Part script (fun i => reply (i + 1)) calls) :
      Part (cue :: script) reply (call :: calls)

variable {script script' : List Cue} {reply : Nat → Reply} {calls calls' : List Request}
  {texts texts' : List Text}

theorem Whole.append (h : Whole script reply calls texts)
    (h' : Whole script' (fun i => reply (calls.length + i)) calls' texts') :
    Whole (script ++ script') reply (calls ++ calls') (texts ++ texts') := by
  induction h with
  | nil => simpa using h'
  | cons hcall ht _ ih =>
    refine .cons hcall ht (ih ?_)
    simpa only [List.length_cons, Nat.add_right_comm _ 1] using h'

/-- A part may follow upon a whole. -/
theorem Whole.append_part (h : Whole script reply calls texts)
    (h' : Part script' (fun i => reply (calls.length + i)) calls') :
    Part (script ++ script') reply (calls ++ calls') := by
  induction h with
  | nil => simpa using h'
  | cons hcall ht _ ih =>
    refine .cons hcall ht (ih ?_)
    simpa only [List.length_cons, Nat.add_right_comm _ 1] using h'

/-- What follows a part of a script follows a part of a longer one. -/
theorem Part.append (h : Part script reply calls) (script' : List Cue) :
    Part (script ++ script') reply calls := by
  induction h with
  | nil => exact .nil
  | failed hcall hf => exact .failed hcall hf
  | cons hcall ht _ ih => exact .cons hcall ht ih

theorem Whole.length (h : Whole script reply calls texts) :
    calls.length = script.length ∧ texts.length = script.length := by
  induction h with
  | nil => exact ⟨rfl, rfl⟩
  | cons _ _ _ ih => exact ⟨congrArg (· + 1) ih.1, congrArg (· + 1) ih.2⟩

/-- The texts of a script that has been followed are those of the replies. -/
theorem Whole.replies (h : Whole script reply calls texts) :
    ∀ i t, texts[i]? = some t → (reply i).text = .ok t := by
  induction h with
  | nil => exact fun i t ht => nomatch ht
  | cons _ ht _ ih =>
    intro i t' ht'
    cases i with
    | zero => exact ht.trans (congrArg _ (Option.some.inj ht'))
    | succ i => exact ih i t' ht'

/-- A script takes the same texts whenever the replies are the same. -/
theorem Whole.unique (h : Whole script reply calls texts) (h' : Whole script reply calls' texts') :
    texts = texts' := by
  induction h generalizing calls' texts' with
  | nil =>
    cases h'
    rfl
  | cons _ ht _ ih =>
    cases h' with
    | cons _ ht' hrest' =>
      rw [ih hrest', Except.ok.inj (ht.symm.trans ht')]

theorem Part.length_le (h : Part script reply calls) : calls.length ≤ script.length := by
  induction h with
  | nil => exact Nat.zero_le _
  | failed _ _ => exact Nat.succ_le_succ (Nat.zero_le _)
  | cons _ _ _ ih => exact Nat.succ_le_succ ih

/-- No request is made behind one that failed. -/
theorem Part.answered (h : Part script reply calls) :
    ∀ i, i + 1 < calls.length → ∃ t, (reply i).text = .ok t := by
  induction h with
  | nil => exact fun i hi => absurd hi (Nat.not_lt_zero _)
  | failed _ _ => exact fun i hi => absurd hi (by simp)
  | @cons _ _ _ _ _ t _ ht _ ih =>
    intro i hi
    cases i with
    | zero => exact ⟨t, ht⟩
    | succ i => exact ih i (Nat.lt_of_succ_lt_succ hi)

/-- Each request is one that its cue in the script calls for. -/
theorem Part.answers (h : Part script reply calls) {i : Nat} {call : Request}
    (hcall : calls[i]? = some call) : ∃ cue, script[i]? = some cue ∧ call.Answers cue := by
  induction h generalizing i with
  | nil => cases hcall
  | @failed cue _ _ _ _ hanswers _ =>
    cases i with
    | zero => exact ⟨cue, rfl, Option.some.inj hcall ▸ hanswers⟩
    | succ i => cases hcall
  | @cons cue _ _ _ _ _ hanswers _ _ ih =>
    cases i with
    | zero => exact ⟨cue, rfl, Option.some.inj hcall ▸ hanswers⟩
    | succ i => exact ih hcall

/-- The roles of the requests are those of the script, in their order. -/
theorem Part.roles (h : Part script reply calls) :
    calls.map Request.role <+: script.map Cue.role := by
  induction h with
  | nil => exact List.nil_prefix
  | failed hcall _ => exact List.cons_prefix_cons.2 ⟨hcall.role, List.nil_prefix⟩
  | cons hcall _ _ ih => exact List.cons_prefix_cons.2 ⟨hcall.role, ih⟩

end Service

namespace Job

variable {α β : Type}

/-! ## 3.  Jobs that do the same -/

/-- A job that makes some requests from a session on, and a job that does the same in all sessions
that are alike: it makes the same requests and comes to the same, with the same files. -/
structure Mirrors (job job' : Job α) (s : Session) (calls : List Request) : Prop where
  asked : s.Asked (job.outcome s).2 calls
  again : ∀ t, s.Alike t calls.length → (job'.outcome t).1 = (job.outcome s).1 ∧
    (job'.outcome t).2.disk = (job.outcome s).2.disk ∧ t.Asked (job'.outcome t).2 calls

/-- A job that meets nothing but the files. -/
def Local (job : Job α) (result : Disk → Except Fault α) (change : Disk → Disk) : Prop :=
  ∀ s, ∃ lines, job.outcome s = (result s.disk, { s with disk := change s.disk, lines })

theorem local_pure (a : α) : Local (pure a) (fun _ => .ok a) id := fun s => ⟨s.lines, rfl⟩

theorem local_ofExcept (r : Except Fault α) : Local (ofExcept r) (fun _ => r) id :=
  fun s => ⟨s.lines, rfl⟩

theorem local_say (line : Text) : Local (say line) (fun _ => .ok ()) id :=
  fun s => ⟨s.lines ++ [line], rfl⟩

theorem local_sayIf (condition : Bool) (line : Text) :
    Local (sayIf condition line) (fun _ => .ok ()) id := by
  cases condition
  · exact local_pure ()
  · exact local_say line

theorem local_report (step : Reporting α) : Local (report step) (fun _ => step.outcome.2) id :=
  fun s => ⟨s.lines ++ step.outcome.1, rfl⟩

theorem local_disk : Local disk (fun d => .ok d) id := fun s => ⟨s.lines, rfl⟩

theorem local_onDisk (change : Disk → Disk × Except Fault α) :
    Local (onDisk change) (fun d => (change d).2) (fun d => (change d).1) :=
  fun s => ⟨s.lines, rfl⟩

/-- Jobs that meet the files only and do the same with them ask nothing. -/
theorem Local.mirrors {job job' : Job α} {result : Disk → Except Fault α} {change : Disk → Disk}
    (h : Local job result change) (h' : Local job' result change) (s : Session) :
    Mirrors job job' s [] := by
  obtain ⟨lines, ho⟩ := h s
  constructor
  · rw [ho]
    exact ⟨(List.append_nil _).symm, rfl, rfl⟩
  · intro t ht
    obtain ⟨lines', ho'⟩ := h' t
    rw [ho, ho', ht.disk]
    exact ⟨rfl, rfl, (List.append_nil _).symm, rfl, rfl⟩

/-- After jobs that do the same, sessions are still alike. -/
theorem Mirrors.alike {job job' : Job α} {s t : Session} {calls : List Request}
    (h : Mirrors job job' s calls) {n : Nat} (ht : s.Alike t (calls.length + n)) :
    (job.outcome s).2.Alike (job'.outcome t).2 n := by
  obtain ⟨-, hdisk, hasked⟩ := h.again t (ht.mono (Nat.le_add_right _ _))
  refine ⟨hdisk, ?_, fun i hi => ?_⟩
  · rw [hasked.environment, h.asked.environment, ht.environment]
  · rw [hasked.reply, h.asked.reply, ht.reply _ (Nat.add_lt_add_left hi _)]

/-- Jobs that are followed by others, if the first ones succeed. -/
theorem Mirrors.bind {x x' : Job α} {f f' : α → Job β} {s : Session} {calls calls' : List Request}
    {a : α} (hx : Mirrors x x' s calls) (ha : (x.outcome s).1 = .ok a)
    (hf : Mirrors (f a) (f' a) (x.outcome s).2 calls') :
    Mirrors (x >>= f) (x' >>= f') s (calls ++ calls') := by
  have ho := outcome_bind_of_ok ha f
  constructor
  · rw [ho]
    exact hx.asked.trans hf.asked
  · intro t ht
    rw [List.length_append] at ht
    obtain ⟨hresult, -, hasked⟩ := hx.again t (ht.mono (Nat.le_add_right _ _))
    have ho' := outcome_bind_of_ok (hresult.trans ha) f'
    obtain ⟨hresult', hdisk', hasked'⟩ := hf.again _ (hx.alike ht)
    rw [ho, ho']
    exact ⟨hresult', hdisk', hasked.trans hasked'⟩

/-- Jobs that are followed by others, if the first ones fail. -/
theorem Mirrors.bind_error {x x' : Job α} {f f' : α → Job β} {s : Session} {calls : List Request}
    {e : Fault} (hx : Mirrors x x' s calls) (he : (x.outcome s).1 = .error e) :
    Mirrors (x >>= f) (x' >>= f') s calls := by
  have ho := outcome_bind_of_error he f
  refine ⟨by rw [ho]; exact hx.asked, fun t ht => ?_⟩
  obtain ⟨hresult, hdisk, hasked⟩ := hx.again t ht
  have ho' := outcome_bind_of_error (hresult.trans he) f'
  rw [ho, ho']
  exact ⟨rfl, hdisk, hasked⟩

/-- What comes of a job, and the session after it, if its failures are held back. -/
theorem attempt_eq (job : Job α) (s : Session) :
    (attempt job).outcome s =
      (match (job.outcome s).1 with
        | .ok a => .ok (.ok a)
        | .error f => if f.stopsAll then .error f else .ok (.error f), (job.outcome s).2) := by
  rw [outcome_attempt]
  cases job.outcome s with
  | mk r s' =>
    cases r with
    | ok a => rfl
    | error f => rfl

theorem Mirrors.attempt {job job' : Job α} {s : Session} {calls : List Request}
    (h : Mirrors job job' s calls) : Mirrors (attempt job) (attempt job') s calls := by
  refine ⟨by rw [attempt_eq]; exact h.asked, fun t ht => ?_⟩
  obtain ⟨hresult, hdisk, hasked⟩ := h.again t ht
  rw [attempt_eq, attempt_eq, hresult]
  exact ⟨rfl, hdisk, hasked⟩

/-! ## 4.  Jobs that follow a script -/

open Service (Cue)

/-- What is known of a job that follows a script from a session on.  What it may come to is said
of its result and the texts of the replies.  A fault is one of its own, which it may have, or that
of a reply. -/
structure Followed (job : Job α) (may : Fault → Prop) (script : List Cue)
    (result : α → List Text → Prop) (s : Session) (calls : List Request) : Prop where
  mirrors : Mirrors job job s calls
  part : Service.Part script s.reply calls
  whole : ∀ a, (job.outcome s).1 = .ok a →
    ∃ texts, Service.Whole script s.reply calls texts ∧ result a texts
  fault : ∀ f, (job.outcome s).1 = .error f →
    may f ∨ ∃ i < calls.length, (s.reply i).text = .error f

/-- A job that follows a script. -/
def Asks (may : Fault → Prop) (script : List Cue) (result : α → List Text → Prop)
    (job : Job α) : Prop := ∀ s, ∃ calls, Followed job may script result s calls

variable {may : Fault → Prop} {script script' : List Cue}

/-- A job that meets the files only follows the script without requests. -/
theorem Local.asks {job : Job α} {given : Disk → Except Fault α} {change : Disk → Disk}
    {result : α → List Text → Prop} (h : Local job given change)
    (hresult : ∀ d a, given d = .ok a → result a [])
    (hmay : ∀ d f, given d = .error f → may f) : Asks may [] result job := by
  intro s
  have hfirst : (job.outcome s).1 = given s.disk := by
    obtain ⟨lines, ho⟩ := h s
    rw [ho]
  refine ⟨[], h.mirrors h s, .nil, fun a ha => ?_, fun f hf => ?_⟩
  · exact ⟨[], .nil, hresult _ _ (hfirst.symm.trans ha)⟩
  · exact .inl (hmay _ f (hfirst.symm.trans hf))

theorem asks_pure {a : α} {result : α → List Text → Prop} (h : result a []) :
    Asks may [] result (pure a) :=
  (local_pure a).asks (fun _ _ hb => Except.ok.inj hb ▸ h) fun _ _ hf => nomatch hf

theorem asks_ofExcept {r : Except Fault α} (h : ∀ f, r = .error f → may f) :
    Asks may [] (fun a texts => r = .ok a ∧ texts = []) (ofExcept r) :=
  (local_ofExcept r).asks (fun _ _ ha => ⟨ha, rfl⟩) fun _ => h

theorem asks_sayIf (condition : Bool) (line : Text) :
    Asks may [] (fun _ texts => texts = []) (sayIf condition line) :=
  (local_sayIf condition line).asks (fun _ _ _ => rfl) fun _ _ hf => nomatch hf

theorem asks_say (line : Text) : Asks may [] (fun _ texts => texts = []) (say line) :=
  asks_sayIf true line

theorem asks_report {step : Reporting α} (h : ∀ f, step.outcome.2 = .error f → may f) :
    Asks may [] (fun a texts => step.outcome.2 = .ok a ∧ texts = []) (report step) :=
  (local_report step).asks (fun _ _ ha => ⟨ha, rfl⟩) fun _ => h

theorem asks_disk : Asks may [] (fun _ texts => texts = []) disk :=
  local_disk.asks (fun _ _ _ => rfl) fun _ _ hf => nomatch hf

/-- What is known of a result may be said less exactly. -/
theorem Asks.imp {job : Job α} {result result' : α → List Text → Prop}
    (h : Asks may script result job) (himp : ∀ a texts, result a texts → result' a texts) :
    Asks may script result' job := by
  intro s
  obtain ⟨calls, hcalls⟩ := h s
  refine ⟨calls, hcalls.mirrors, hcalls.part, fun a ha => ?_, hcalls.fault⟩
  obtain ⟨texts, hwhole, hresult⟩ := hcalls.whole a ha
  exact ⟨texts, hwhole, himp a texts hresult⟩

/-- **Two jobs, one after the other,** follow the script of the first one and then that of the
second one. -/
theorem Asks.bind {x : Job α} {f : α → Job β} {first : α → List Text → Prop}
    {result : β → List Text → Prop} (hx : Asks may script first x) (script' : List Cue)
    (hf : ∀ a texts, first a texts →
      Asks may script' (fun b texts' => result b (texts ++ texts')) (f a)) :
    Asks may (script ++ script') result (x >>= f) := by
  intro s
  obtain ⟨calls, hcalls⟩ := hx s
  cases hr : (x.outcome s).1 with
  | error e =>
    have ho := outcome_bind_of_error hr f
    refine ⟨calls, hcalls.mirrors.bind_error hr, hcalls.part.append script', fun b hb => ?_,
      fun g hg => ?_⟩
    · rw [ho] at hb
      cases hb
    · rw [ho] at hg
      obtain rfl : e = g := Except.error.inj hg
      exact hcalls.fault e hr
  | ok a =>
    obtain ⟨texts, hwhole, hfirst⟩ := hcalls.whole a hr
    obtain ⟨calls', hcalls'⟩ := hf a texts hfirst (x.outcome s).2
    have ho := outcome_bind_of_ok hr f
    have hreply : (x.outcome s).2.reply = fun i => s.reply (calls.length + i) :=
      funext hcalls.mirrors.asked.reply
    have hpart := hcalls'.part
    rw [hreply] at hpart
    refine ⟨calls ++ calls', hcalls.mirrors.bind hr hcalls'.mirrors, hwhole.append_part hpart,
      fun b hb => ?_, fun g hg => ?_⟩
    · rw [ho] at hb
      obtain ⟨texts', hwhole', hresult⟩ := hcalls'.whole b hb
      rw [hreply] at hwhole'
      exact ⟨texts ++ texts', hwhole.append hwhole', hresult⟩
    · rw [ho] at hg
      rcases hcalls'.fault g hg with hmay | ⟨i, hi, hi'⟩
      · exact .inl hmay
      · rw [hreply] at hi'
        exact .inr ⟨calls.length + i, by rw [List.length_append]; omega, hi'⟩

/-- A job that asks nothing, before one that follows a script. -/
theorem Asks.after {x : Job α} {f : α → Job β} {P : α → Prop}
    {result : β → List Text → Prop} (hx : Asks may [] (fun a texts => P a ∧ texts = []) x)
    (hf : ∀ a, P a → Asks may script result (f a)) : Asks may script result (x >>= f) := by
  refine hx.bind script fun a texts h => ?_
  obtain ⟨ha, rfl⟩ := h
  exact hf a ha

/-- A job that asks nothing and gives nothing of interest, before one that follows a script. -/
theorem Asks.next {x : Job α} {f : α → Job β} {result : β → List Text → Prop}
    (hx : Asks may [] (fun _ texts => texts = []) x) (hf : ∀ a, Asks may script result (f a)) :
    Asks may script result (x >>= f) :=
  have hsilent : Asks may [] (fun _ texts => True ∧ texts = []) x :=
    hx.imp fun _ _ h => ⟨trivial, h⟩
  hsilent.after fun a _ => hf a

/-! ## 5.  One request -/

/-- What the key for the service comes to, with the variables of an environment. -/
def keyIn (m : ModelSettings) (environment : List (Text × Text)) : Except Fault Text :=
  match m.keyVariable with
  | .text name =>
    match Table.lookup name environment with
    | some (c :: key) => .ok (c :: key)
    | _ =>
      .error (.service ("API key not found in environment variable " ++ name ++ ".") none none)
  | v => .error (.wrongKind ("str expected, not " ++ v.shortKindName))

theorem outcome_serviceKey (m : ModelSettings) (s : Session) :
    (serviceKey m).outcome s = (keyIn m s.environment, s) := by
  unfold serviceKey keyIn
  cases m.keyVariable with
  | text name =>
    have hget : (get : Job Session).outcome s = (.ok s, s) := rfl
    dsimp only
    rw [outcome_bind, hget]
    dsimp only
    cases Table.lookup name s.environment with
    | none => rfl
    | some key =>
      cases key with
      | nil => rfl
      | cons c key => rfl
  | _ => rfl

theorem outcome_nextReply (s : Session) :
    nextReply.outcome s = (.ok (s.reply 0), { s with replies := s.replies.drop 1 }) := by
  obtain ⟨disk, environment, repository, replies, lines, questions, requests, observations⟩ := s
  cases replies with
  | nil => rfl
  | cons r rest => rfl

/-- What is asked of the service, with a key. -/
def made (m : ModelSettings) (key role prompt : Text) (maxTokens : Value) : Request :=
  { key, model := m.model, temperature := m.temperature, role, prompt
    maxTokens := if maxTokens.isTrue then maxTokens else m.maxTokens }

/-- **What comes of a request:** without a key it is not made, and with one it takes a reply. -/
theorem outcome_request (m : ModelSettings) (role prompt : Text) (maxTokens : Value)
    (s : Session) : (request m role prompt maxTokens).outcome s =
      match keyIn m s.environment with
      | .error f => (.error f, s)
      | .ok key => ((s.reply 0).text, { s with
          requests := s.requests ++ [made m key role prompt maxTokens]
          replies := s.replies.drop 1 }) := by
  rw [request, outcome_bind, outcome_serviceKey]
  cases keyIn m s.environment with
  | error f => rfl
  | ok key =>
    have hmade : (modify fun s => { s with requests := s.requests ++
        [made m key role prompt maxTokens] } : Job PUnit).outcome s =
        (.ok ⟨⟩, { s with requests := s.requests ++ [made m key role prompt maxTokens] }) := rfl
    refine (outcome_bind_of_ok (congrArg Prod.fst hmade) _).trans ?_
    rw [hmade, outcome_bind, outcome_nextReply]
    rfl

theorem mirrors_request (m : ModelSettings) (role prompt : Text) (maxTokens : Value)
    {s : Session} {key : Text} (hkey : keyIn m s.environment = .ok key) :
    Mirrors (request m role prompt maxTokens) (request m role prompt maxTokens) s
      [made m key role prompt maxTokens] := by
  constructor
  · rw [outcome_request, hkey]
    exact ⟨rfl, rfl, rfl⟩
  · intro t ht
    rw [outcome_request, outcome_request, ht.environment, hkey, ht.reply 0 Nat.zero_lt_one]
    exact ⟨rfl, ht.disk, rfl, rfl, ht.environment.symm⟩

/-- **A request follows the script of one cue**, and gives the text of its reply. -/
theorem asks_request {m : ModelSettings} {role prompt : Text} {cue : Cue}
    (hrole : role = cue.role) (hprompt : cue.allows prompt) (maxTokens : Value)
    (hmay : ∀ environment f, keyIn m environment = .error f → may f) :
    Asks may [cue] (fun t texts => texts = [t]) (request m role prompt maxTokens) := by
  intro s
  cases hkey : keyIn m s.environment with
  | error f =>
    have ho : ∀ t, s.Alike t 0 → (request m role prompt maxTokens).outcome t = (.error f, t) :=
      fun t ht => by rw [outcome_request, ht.environment, hkey]
    have hself := ho s (.refl s 0)
    refine ⟨[], ⟨?_, fun t ht => ?_⟩, .nil, fun a ha => ?_, fun g hg => ?_⟩
    · rw [hself]
      exact ⟨(List.append_nil _).symm, rfl, rfl⟩
    · rw [ho t ht, hself]
      exact ⟨rfl, ht.disk, (List.append_nil _).symm, rfl, rfl⟩
    · rw [hself] at ha
      cases ha
    · rw [hself] at hg
      obtain rfl := Except.error.inj hg
      exact .inl (hmay _ f hkey)
  | ok key =>
    have hcall : (made m key role prompt maxTokens).Answers cue := ⟨hrole, hprompt⟩
    have hfirst : ((request m role prompt maxTokens).outcome s).1 = (s.reply 0).text := by
      rw [outcome_request, hkey]
    refine ⟨_, mirrors_request m role prompt maxTokens hkey, ?_, fun a ha => ?_, fun g hg => ?_⟩
    · cases htext : (s.reply 0).text with
      | error f => exact .failed hcall htext
      | ok t => exact .cons hcall htext .nil
    · exact ⟨[a], .cons hcall (hfirst.symm.trans ha) .nil, rfl⟩
    · exact .inr ⟨0, Nat.zero_lt_one, hfirst.symm.trans hg⟩

end Job

end UiHarness
