import UiHarness.Proofs.Watch.Debounce

/-!
# A callback that fails

A flush takes all that has settled from what is pending before it hands over the first file.  If the
callback fails for a file, the flush fails with it, and the files behind it have been forgotten: it
was not called for them, and they are no longer pending.  So a callback may lose files.  What can be
said is which ones: those behind the file it fails for, and no others.

For the watcher this is harmless.  Its callback holds back every fault but one, that the user stops
the program, and then there is no later flush that could hand over anything.

* `Debounce.handOver`: a callback and the files that it is called for.
* `Debounce.flushWith`: a flush with a callback, and what it leaves behind.
* `Debounce.FlushOutcome`: how a flush ends.
* `Debounce.after_flush`: what becomes of each group that was pending.
* `Debounce.NoneLost`, `Debounce.not_noneLost`: a callback may lose files.
* `Watch.look_eq`, `Watch.stopsAll_of_takeUp`: the watcher's flushes, and its callback.
-/

namespace UiHarness

namespace Debounce

/-! ## 1.  Handing over -/

/-- Hands files to a callback, up to the first for which it fails: the files for which it was
called, and what came of it. -/
def handOver (callback : Path → Job Unit) :
    List Path → Session → List Path × Except Fault Unit × Session
  | [], s => ([], .ok (), s)
  | p :: ps, s =>
    match (callback p).outcome s with
    | (.error f, s') => ([p], .error f, s')
    | (.ok (), s') =>
      let rest := handOver callback ps s'
      (p :: rest.1, rest.2)

/-- Files are handed over as by a loop. -/
theorem outcome_forM (callback : Path → Job Unit) (ps : List Path) (s : Session) :
    (ps.forM callback).outcome s = (handOver callback ps s).2 := by
  induction ps generalizing s with
  | nil => rfl
  | cons p ps ih =>
    change (callback p >>= fun _ => ps.forM callback).outcome s = _
    rw [Job.outcome_bind, handOver]
    cases (callback p).outcome s with
    | mk r s' =>
      cases r with
      | error f => rfl
      | ok u => exact ih s'

/-- **Either all files are handed over, or the callback fails for one of them**; then it was called
for those in front of it and for no others. -/
theorem handOver_cases (callback : Path → Job Unit) (ps : List Path) (s : Session) :
    (∃ s', handOver callback ps s = (ps, .ok (), s')) ∨
      ∃ front p back f s' s'', ps = front ++ p :: back ∧
        handOver callback front s = (front, .ok (), s') ∧
        (callback p).outcome s' = (.error f, s'') ∧
        handOver callback ps s = (front ++ [p], .error f, s'') := by
  induction ps generalizing s with
  | nil => exact .inl ⟨s, rfl⟩
  | cons p ps ih =>
    cases hp : (callback p).outcome s with
    | mk r s' =>
      cases r with
      | error f =>
        exact .inr ⟨[], p, ps, f, s, s', rfl, rfl, hp, by rw [handOver, hp]; rfl⟩
      | ok u =>
        have hcons : ∀ qs, handOver callback (p :: qs) s =
            (p :: (handOver callback qs s').1, (handOver callback qs s').2) := fun qs => by
          rw [handOver, hp]
        rw [hcons ps]
        rcases ih s' with ⟨t, hall⟩ | ⟨front, q, back, f, t, t', rfl, hfront, hq, hall⟩
        · exact .inl ⟨t, by rw [hall]⟩
        · refine .inr ⟨p :: front, q, back, f, t, t', rfl, by rw [hcons, hfront], hq, ?_⟩
          rw [hall]
          rfl

/-! ## 2.  What has settled -/

/-- Whether an event was seen long enough ago, if that can be said. -/
def isDue (quiet : Value) (now seen : Binary64) : Bool :=
  (isQuiet quiet (now.sub seen)).toOption = some true

/-- The groups that have settled. -/
def due (b : Debounce) (quiet : Value) (now : Binary64) : List (Text × Burst) :=
  b.entries.filter fun e => isDue quiet now e.2.seen

variable {b b' : Debounce} {quiet : Value} {now : Binary64} {files : List Path} {f : Fault}

theorem isQuiet_of_settledKeys {l : List (Text × Burst)} {keys : List Text}
    (h : settledKeys quiet now l = .ok keys) :
    ∀ e ∈ l, isQuiet quiet (now.sub e.2.seen) = .ok (isDue quiet now e.2.seen) := by
  induction l generalizing keys with
  | nil => exact fun e he => absurd he List.not_mem_nil
  | cons e l ih =>
    obtain ⟨isSettled, hsettled, h⟩ := Except.bind_eq_ok.1 h
    obtain ⟨rest, hrest, -⟩ := Except.bind_eq_ok.1 h
    rw [List.forall_mem_cons]
    refine ⟨?_, ih hrest⟩
    rw [isDue, hsettled]
    cases isSettled with
    | false => rfl
    | true => rfl

theorem exists_of_settledKeys {l : List (Text × Burst)} (h : settledKeys quiet now l = .error f) :
    ∃ e ∈ l, isQuiet quiet (now.sub e.2.seen) = .error f := by
  induction l with
  | nil => cases h
  | cons e l ih =>
    rw [settledKeys] at h
    cases hsettled : isQuiet quiet (now.sub e.2.seen) with
    | error f' =>
      rw [hsettled] at h
      obtain rfl := Except.error.inj h
      exact ⟨e, List.mem_cons_self .., hsettled⟩
    | ok isSettled =>
      rw [hsettled] at h
      cases hrest : settledKeys quiet now l with
      | error f' =>
        rw [hrest] at h
        obtain rfl := Except.error.inj h
        obtain ⟨e', he', hf⟩ := ih hrest
        exact ⟨e', List.mem_cons_of_mem _ he', hf⟩
      | ok keys =>
        rw [hrest] at h
        cases h

/-- A flush that hands over anything hands over what has settled, and keeps the rest. -/
theorem of_flush (h : b.flush quiet now = .ok (files, b')) :
    files = (b.due quiet now).map (fun e => e.2.path) ∧
      b'.entries = b.entries.filter fun e => !isDue quiet now e.2.seen := by
  obtain ⟨keys, hkeys, -⟩ := Except.bind_eq_ok.1 h
  obtain ⟨rest, hflush, hrest⟩ := flush_eq (isDue quiet now) (isQuiet_of_settledKeys hkeys)
  obtain ⟨rfl, rfl⟩ := Prod.mk.inj (Except.ok.inj (h.symm.trans hflush))
  exact ⟨rfl, hrest⟩

theorem flush_eq_error (h : b.flush quiet now = .error f) :
    ∃ e ∈ b.entries, isQuiet quiet (now.sub e.2.seen) = .error f := by
  rw [flush] at h
  cases hkeys : settledKeys quiet now b.entries with
  | error f' =>
    rw [hkeys] at h
    obtain rfl := Except.error.inj h
    exact exists_of_settledKeys hkeys
  | ok keys =>
    rw [hkeys] at h
    cases h

/-! ## 3.  What is pending after signals -/

variable {callback : Path → Job Unit} {s : Session} {h : Handler} {past past' : History}
  {xs rest : List Signal}

/-- Signals keep it so that what is pending is what waits. -/
theorem Pending.foldlM (hb : Pending h past b)
    (hrun : rest.foldlM h.extend (past, b) = .ok (past', b')) : Pending h past' b' := by
  induction rest generalizing past b with
  | nil =>
    obtain ⟨rfl, rfl⟩ := Prod.mk.inj (Except.ok.inj hrun)
    exact hb
  | cons x rest ih =>
    rw [List.foldlM_cons] at hrun
    obtain ⟨⟨between, bb⟩, hstep, hrun⟩ := Except.bind_eq_ok.1 hrun
    obtain ⟨⟨files, c⟩, hx, hextend⟩ := Except.bind_eq_ok.1 hstep
    obtain ⟨rfl, rfl⟩ := Prod.mk.inj (Except.ok.inj hextend)
    refine ih ?_ hrun
    cases x with
    | event e now =>
      obtain ⟨b₁, hevent, hb₁⟩ := hb.event e now
      obtain ⟨rfl, rfl⟩ := Prod.mk.inj (Except.ok.inj (hx.symm.trans hevent))
      exact hb₁
    | flush now =>
      obtain ⟨rfl, hrest⟩ := of_flush hx
      exact hb.flush hrest

/-- **What is pending is what waits**, after all signals that a handler can take in. -/
theorem pending_of_run (hrun : h.run xs = .ok (past, b)) : Pending h past b := by
  refine Pending.foldlM (fun key p seen => ?_) hrun
  constructor
  · intro hget
    cases hget
  · exact fun hwait => absurd hwait.2 not_waiting_nil

/-! ## 4.  A flush with a callback -/

/-- What a flush leaves behind: the files for which the callback was called, what is pending, how
many files were handed over or how it failed, and the session. -/
structure Flushed where
  called : List Path
  pending : Debounce
  result : Except Fault Nat
  session : Session

/-- A flush with a callback. -/
def flushWith (callback : Path → Job Unit) (quiet : Value) (now : Binary64) (b : Debounce)
    (s : Session) : Flushed :=
  match b.flush quiet now with
  | .error f => ⟨[], b, .error f, s⟩
  | .ok (files, b') =>
    let (called, result, s') := handOver callback files s
    ⟨called, b', result.map fun _ => files.length, s'⟩

/-- How a flush ends: times cannot be compared, and nothing happens; or what has settled is no
longer pending, and the callback is called for all of it, or up to the file for which it fails. -/
inductive FlushOutcome (callback : Path → Job Unit) (quiet : Value) (now : Binary64) (b : Debounce)
    (s : Session) : Flushed → Prop
  | refused {e : Text × Burst} {f : Fault} (he : e ∈ b.entries)
      (hf : isQuiet quiet (now.sub e.2.seen) = .error f) :
    FlushOutcome callback quiet now b s ⟨[], b, .error f, s⟩
  | returned {b' : Debounce} {s' : Session}
      (hrest : b'.entries = b.entries.filter fun e => !isDue quiet now e.2.seen)
      (hall : (((b.due quiet now).map fun e => e.2.path).forM callback).outcome s = (.ok (), s')) :
    FlushOutcome callback quiet now b s
      ⟨(b.due quiet now).map fun e => e.2.path, b', .ok (b.due quiet now).length, s'⟩
  | raised {front back : List (Text × Burst)} {e : Text × Burst} {b' : Debounce} {f : Fault}
      {s' s'' : Session} (hsplit : b.due quiet now = front ++ e :: back)
      (hrest : b'.entries = b.entries.filter fun e => !isDue quiet now e.2.seen)
      (hfront : ((front.map fun e => e.2.path).forM callback).outcome s = (.ok (), s'))
      (hraise : (callback e.2.path).outcome s' = (.error f, s'')) :
    FlushOutcome callback quiet now b s
      ⟨(front ++ [e]).map fun e => e.2.path, b', .error f, s''⟩

theorem flushOutcome (callback : Path → Job Unit) (quiet : Value) (now : Binary64) (b : Debounce)
    (s : Session) : FlushOutcome callback quiet now b s (flushWith callback quiet now b s) := by
  rw [flushWith]
  cases hflush : b.flush quiet now with
  | error f =>
    obtain ⟨e, he, hf⟩ := flush_eq_error hflush
    exact .refused he hf
  | ok r =>
    obtain ⟨files, b'⟩ := r
    obtain ⟨rfl, hrest⟩ := of_flush hflush
    dsimp only
    rcases handOver_cases callback ((b.due quiet now).map fun e => e.2.path) s with
      ⟨s', hall⟩ | ⟨front, p, back, f, s', s'', hsplit, hfront, hp, hall⟩
    · rw [hall, List.length_map]
      exact .returned hrest (by rw [outcome_forM, hall])
    · obtain ⟨front, rest, hdue, rfl, hmap⟩ := List.map_eq_append_iff.1 hsplit
      obtain ⟨e, back, rfl, rfl, rfl⟩ := List.map_eq_cons_iff.1 hmap
      rw [hall]
      have hcalled : front.map (fun e => e.2.path) ++ [e.2.path] =
          (front ++ [e]).map fun e => e.2.path := by rw [List.map_append]; rfl
      rw [hcalled]
      exact .raised hdue hrest (by rw [outcome_forM, hfront]) hp

/-- What is left of a group that was pending. -/
theorem get?_rest {key : Text} {burst : Burst}
    (hrest : b'.entries = b.entries.filter fun e => !isDue quiet now e.2.seen)
    (hget : b.get? key = some burst) :
    b'.get? key = if isDue quiet now burst.seen then none else some burst := by
  have hiff : ∀ burst', b'.get? key = some burst' ↔
      b.get? key = some burst' ∧ isDue quiet now burst'.seen = false := fun burst' => by
    rw [Table.get?_eq_some, hrest, List.mem_filter, ← Table.get?_eq_some, Bool.not_eq_true']
  cases hdue : isDue quiet now burst.seen with
  | false => exact (hiff burst).2 ⟨hget, hdue⟩
  | true =>
    cases hb' : b'.get? key with
    | none => rfl
    | some burst' =>
      obtain ⟨hget', hdue'⟩ := (hiff burst').1 hb'
      rw [hget] at hget'
      rw [← Option.some.inj hget', hdue] at hdue'
      cases hdue'

theorem mem_due {key : Text} {burst : Burst} (hget : b.get? key = some burst)
    (hdue : isDue quiet now burst.seen = true) : (key, burst) ∈ b.due quiet now :=
  List.mem_filter.2 ⟨Table.get?_eq_some.1 hget, hdue⟩

/-- What becomes of the groups that were pending at a flush: of each it was the latest file; those
that have not settled stay pending; those that have settled are handed over, and if one is not, the
callback failed for one in front of it, and then it is no longer pending. -/
structure AfterFlush (h : Handler) (past : History) (callback : Path → Job Unit) (now : Binary64)
    (b : Debounce) (s : Session) (r : Flushed) : Prop where
  latest : ∀ key p seen, b.get? key = some ⟨p, seen⟩ ↔ h.key p = key ∧ Waiting h past p seen
  outcome : FlushOutcome callback h.quiet now b s r
  unsettled : ∀ key burst, b.get? key = some burst → isDue h.quiet now burst.seen = false →
    r.pending.get? key = some burst
  settled : ∀ key burst, b.get? key = some burst → isDue h.quiet now burst.seen = true →
    burst.path ∈ r.called ∨ r.pending.get? key = some burst ∨
      ∃ front e back f, b.due h.quiet now = front ++ e :: back ∧ (key, burst) ∈ back ∧
        r.called = (front ++ [e]).map (fun e => e.2.path) ∧ r.result = .error f ∧
        (∃ s', (callback e.2.path).outcome s' = (.error f, r.session)) ∧
        r.pending.get? key = none
  returned : ∀ n, r.result = .ok n →
    r.called = (b.due h.quiet now).map (fun e => e.2.path) ∧ n = r.called.length

theorem FlushOutcome.after {r : Flushed} (houtcome : FlushOutcome callback h.quiet now b s r)
    (hb : Pending h past b) : AfterFlush h past callback now b s r := by
  refine ⟨hb, houtcome, fun key burst hget hdue => ?_, fun key burst hget hdue => ?_,
    fun n hn => ?_⟩
  · cases houtcome with
    | refused he hf => exact hget
    | returned hrest hall => rw [get?_rest hrest hget, hdue, if_neg Bool.false_ne_true]
    | raised hsplit hrest hfront hraise =>
      rw [get?_rest hrest hget, hdue, if_neg Bool.false_ne_true]
  · have hmem := mem_due hget hdue
    cases houtcome with
    | refused he hf => exact .inr (.inl hget)
    | returned hrest hall => exact .inl (List.mem_map_of_mem hmem)
    | @raised front back e b' f s' s'' hsplit hrest hfront hraise =>
      have hfree : b'.get? key = none := by rw [get?_rest hrest hget, hdue, if_pos rfl]
      rw [hsplit, List.append_cons, List.mem_append] at hmem
      rcases hmem with hmem | hmem
      · exact .inl (List.mem_map_of_mem hmem)
      · exact .inr (.inr ⟨front, e, back, f, hsplit, hmem, rfl, rfl, ⟨s', hraise⟩, hfree⟩)
  · cases houtcome with
    | refused he hf => cases hn
    | returned hrest hall => exact ⟨rfl, by rw [List.length_map, Except.ok.inj hn]⟩
    | raised hsplit hrest hfront hraise => cases hn

/-- **What becomes of each group that was pending at a flush**, whether it returns or fails. -/
theorem after_flush (hrun : h.run xs = .ok (past, b)) (now : Binary64)
    (callback : Path → Job Unit) (s : Session) :
    AfterFlush h past callback now b s (flushWith callback h.quiet now b s) :=
  (flushOutcome callback h.quiet now b s).after (pending_of_run hrun)

/-! ## 5.  Files that are lost -/

/-- Files of two directories, both at once. -/
def twoDirectories : List Signal :=
  [.event (.created "v/a.ts") (.ofInt 0), .event (.created "w/b.ts") (.ofInt 0)]

/-- A callback that fails for the files of one directory. -/
def failing (p : Path) : Job Unit :=
  if p.parent.text = "v".toList then throw (.failure "no") else pure ()

/-- The case of two directories that have settled when the callback fails for the first one. -/
theorem after_flush_twoDirectories : ∃ past b,
    directoryHandler.run twoDirectories = .ok (past, b) ∧
    (flushWith failing directoryHandler.quiet (.ofInt 1) b { disk := {} }).called.map Path.text =
      ["v/a.ts".toList] ∧
    AfterFlush directoryHandler past failing (.ofInt 1) b { disk := {} }
      (flushWith failing directoryHandler.quiet (.ofInt 1) b { disk := {} }) := by
  have hcalled : ((directoryHandler.run twoDirectories).toOption.any fun r =>
      (flushWith failing directoryHandler.quiet (.ofInt 1) r.2 { disk := {} }).called.map
        Path.text = ["v/a.ts".toList]) = true := by decide +kernel
  obtain ⟨⟨past, b⟩, hrun, hcalled⟩ := Except.exists_of_any hcalled
  exact ⟨past, b, hrun, of_decide_eq_true hcalled, after_flush hrun _ _ _⟩

/-- Every group that has settled is handed over or stays pending, whatever the callback does. -/
def NoneLost : Prop :=
  ∀ (h : Handler) (xs : List Signal) (past : History) (b : Debounce), h.run xs = .ok (past, b) →
    ∀ (now : Binary64) (callback : Path → Job Unit) (s : Session) (key : Text) (burst : Burst),
      b.get? key = some burst → isDue h.quiet now burst.seen = true →
        burst.path ∈ (flushWith callback h.quiet now b s).called ∨
          (flushWith callback h.quiet now b s).pending.get? key = some burst

/-- **A callback may lose files**: the second directory is neither handed over nor pending. -/
theorem not_noneLost : ¬ NoneLost := by
  intro hall
  have hlost : ((directoryHandler.run twoDirectories).toOption.any fun r =>
      (r.2.get? "w").any fun burst => isDue directoryHandler.quiet (.ofInt 1) burst.seen &&
        decide (burst.path ∉ (flushWith failing directoryHandler.quiet (.ofInt 1) r.2
          { disk := {} }).called) &&
        ((flushWith failing directoryHandler.quiet (.ofInt 1) r.2
          { disk := {} }).pending.get? "w").isNone) = true := by decide +kernel
  obtain ⟨⟨past, b⟩, hrun, hlost⟩ := Except.exists_of_any hlost
  obtain ⟨burst, hget, hlost⟩ := (Option.any_eq_true ..).1 hlost
  simp only [Bool.and_eq_true, decide_eq_true_eq] at hlost
  obtain ⟨⟨hdue, hcalled⟩, hpending⟩ := hlost
  rcases hall _ _ past b hrun _ failing _ "w" burst hget hdue with hin | hkept
  · exact hcalled hin
  · rw [hkept] at hpending
    cases hpending

end Debounce

namespace Watch

open Debounce

/-! ## 6.  The watcher -/

/-- A flush whose files are handed over in a loop is one with a callback. -/
theorem flush_forM (callback : Path → Job Unit) (quiet : Value) (now : Binary64) (b : Debounce) :
    (do
      let (ready, b) ← Job.ofExcept (b.flush quiet now)
      ready.forM callback
      return b : Job Debounce) = ExceptT.mk fun session =>
        let r := flushWith callback quiet now b session
        (r.result.map fun _ => r.pending, r.session) := by
  funext session
  change Job.outcome _ session = (let r := flushWith callback quiet now b session
    (r.result.map fun _ => r.pending, r.session))
  rw [Job.outcome_bind, flushWith]
  cases b.flush quiet now with
  | error f => rfl
  | ok r =>
    obtain ⟨files, b'⟩ := r
    change Job.outcome (files.forM callback >>= fun _ => pure b') session = _
    rw [Job.outcome_bind, outcome_forM]
    dsimp only
    obtain ⟨called, result, session'⟩ := handOver callback files session
    cases result with
    | error f => rfl
    | ok u => rfl

/-- **The watcher's flushes** are those with a callback that takes up units. -/
theorem look_eq (s : Settings) (process : Path → Job Bool) (b : Debounce) (l : Look) :
    look s process b l = (do
      Job.onDisk fun d => (l.files d, .ok ())
      let here := (← Job.disk).here
      let b ← Job.ofExcept (l.events.foldlM (deliver s here l.now) b)
      ExceptT.mk fun session =>
        let r := flushWith (takeUp process l.timeOfDay) s.quietSeconds l.now b session
        (r.result.map fun _ => r.pending, r.session)) := by
  simp only [← flush_forM]
  rfl

/-- **The watcher's callback** holds back every fault but that the user stops the program. -/
theorem stopsAll_of_takeUp {process : Path → Job Bool} {timeOfDay : Text} {p : Path}
    {session : Session} {f : Fault}
    (h : ((takeUp process timeOfDay p).outcome session).1 = .error f) : f.stopsAll = true := by
  rw [takeUp] at h
  have hsay : ∀ (line : Text) (next : Job Unit) (session : Session),
      ((Job.say line >>= fun _ => next).outcome session).1 =
        (next.outcome { session with lines := session.lines ++ [line] }).1 :=
    fun _ _ _ => rfl
  rw [hsay, Job.outcome_bind, Job.outcome_attempt] at h
  generalize (process p).outcome _ = o at h
  obtain ⟨f' | done, after⟩ := o
  · dsimp only at h
    cases hstops : f'.stopsAll with
    | false =>
      rw [hstops] at h
      cases h
    | true =>
      rw [hstops] at h
      exact Except.error.inj h ▸ hstops
  · cases done with
    | true => cases h
    | false => cases h

end Watch

end UiHarness
