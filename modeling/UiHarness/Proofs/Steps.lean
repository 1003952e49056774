import UiHarness.Session

/-!
# Steps that may fail

What is known of a step that has succeeded, and of the steps that it consists of.

* `Except.bind_eq_ok`, `Except.foldlM_induction`: results that need no session.
* `Reporting.Gives`: a result of a step that reports lines, whatever the lines.
* `Reporting.Ends`: the result of a step that reports lines.
* `Job.outcome_bind`, `Job.Quiet`: jobs, and those that leave the files alone.
-/

namespace UiHarness

variable {α β ε : Type}

namespace Except

/-! ## 1.  Results -/

/-- What is known of two steps, one after the other, that have succeeded. -/
theorem bind_eq_ok {x : Except ε α} {f : α → Except ε β} {b : β} :
    x >>= f = .ok b ↔ ∃ a, x = .ok a ∧ f a = .ok b := by
  cases x with
  | error e => exact ⟨fun h => (by cases h), fun ⟨_, h, _⟩ => (by cases h)⟩
  | ok a => exact ⟨fun h => ⟨a, rfl, h⟩, fun ⟨_, h, h'⟩ => Except.ok.inj h ▸ h'⟩

theorem map_eq_ok {x : Except ε α} {f : α → β} {b : β} :
    x.map f = .ok b ↔ ∃ a, x = .ok a ∧ f a = b := by
  cases x with
  | error e => exact ⟨fun h => (by cases h), fun ⟨_, h, _⟩ => (by cases h)⟩
  | ok a => exact ⟨fun h => ⟨a, rfl, Except.ok.inj h⟩, fun ⟨_, h, h'⟩ => h' ▸ congrArg _ h⟩

/-- What comes of each entry comes of all of them. -/
theorem mapM_eq_ok {f : α → Except ε β} {g : α → β} {l : List α}
    (h : ∀ a ∈ l, f a = .ok (g a)) : l.mapM f = .ok (l.map g) := by
  induction l with
  | nil => rfl
  | cons a l ih =>
    rw [List.forall_mem_cons] at h
    rw [List.mapM_cons, h.1, ih h.2]
    rfl

/-- A check of a result that passes, passes of a value. -/
theorem exists_of_any {x : Except ε α} {p : α → Bool} (h : x.toOption.any p = true) :
    ∃ a, x = .ok a ∧ p a = true := by
  cases x with
  | error e => cases h
  | ok a => exact ⟨a, rfl, h⟩

/-- What each of several steps keeps is kept by all of them. -/
theorem foldlM_induction {f : β → α → Except ε β} {P : β → Prop} {l : List α} {b b' : β}
    (hstep : ∀ a ∈ l, ∀ b b', P b → f b a = .ok b' → P b') (hb : P b)
    (h : l.foldlM f b = .ok b') : P b' := by
  induction l generalizing b with
  | nil => exact Except.ok.inj h ▸ hb
  | cons a l ih =>
    rw [List.foldlM_cons, bind_eq_ok] at h
    obtain ⟨c, hc, h⟩ := h
    exact ih (fun x hx => hstep x (List.mem_cons_of_mem _ hx))
      (hstep a (List.mem_cons_self ..) b c hb hc) h

/-- What each of several steps brings about, and the others leave, is there in the end. -/
theorem foldlM_forall {f : β → α → Except ε β} {P : α → β → Prop} {l : List α} {b b' : β}
    (hnew : ∀ a ∈ l, ∀ b b', f b a = .ok b' → P a b')
    (hkeep : ∀ x, ∀ a ∈ l, ∀ b b', P x b → f b a = .ok b' → P x b')
    (h : l.foldlM f b = .ok b') : ∀ a ∈ l, P a b' := by
  induction l generalizing b with
  | nil => exact fun a ha => absurd ha List.not_mem_nil
  | cons a l ih =>
    rw [List.foldlM_cons, bind_eq_ok] at h
    obtain ⟨c, hc, h⟩ := h
    intro x hx
    rcases List.mem_cons.1 hx with rfl | hx
    · exact foldlM_induction (fun a ha => hkeep x a (List.mem_cons_of_mem _ ha))
        (hnew x (List.mem_cons_self ..) b c hc) h
    · exact ih (fun a ha => hnew a (List.mem_cons_of_mem _ ha))
        (fun x a ha => hkeep x a (List.mem_cons_of_mem _ ha)) h x hx

/-- Several steps succeed if each does where something holds that it keeps. -/
theorem exists_foldlM {f : β → α → Except ε β} {P : β → Prop} {l : List α} {b : β}
    (hstep : ∀ a ∈ l, ∀ b, P b → ∃ b', f b a = .ok b' ∧ P b') (hb : P b) :
    ∃ b', l.foldlM f b = .ok b' ∧ P b' := by
  induction l generalizing b with
  | nil => exact ⟨b, rfl, hb⟩
  | cons a l ih =>
    obtain ⟨c, hc, hP⟩ := hstep a (List.mem_cons_self ..) b hb
    obtain ⟨b', hb', hP'⟩ := ih (fun x hx => hstep x (List.mem_cons_of_mem _ hx)) hP
    exact ⟨b', by rw [List.foldlM_cons, hc]; exact hb', hP'⟩

/-- What is found is among what was looked through. -/
theorem of_findM? {p : α → Except ε Bool} {l : List α} {a : α} (h : l.findM? p = .ok (some a)) :
    a ∈ l ∧ p a = .ok true := by
  induction l with
  | nil => cases h
  | cons x l ih =>
    rw [List.findM?, bind_eq_ok] at h
    obtain ⟨r, hr, h⟩ := h
    cases r with
    | true =>
      cases h
      exact ⟨List.mem_cons_self .., hr⟩
    | false =>
      obtain ⟨hm, hp⟩ := ih h
      exact ⟨List.mem_cons_of_mem _ hm, hp⟩

/-- If nothing is found, none of the entries passes. -/
theorem of_findM?_none {p : α → Except ε Bool} {l : List α} (h : l.findM? p = .ok none) {a : α}
    (ha : a ∈ l) : p a = .ok false := by
  induction l with
  | nil => cases ha
  | cons x l ih =>
    rw [List.findM?, bind_eq_ok] at h
    obtain ⟨r, hr, h⟩ := h
    cases r with
    | true => cases h
    | false =>
      rcases List.mem_cons.1 ha with rfl | ha
      · exact hr
      · exact ih h ha

/-- What is found is what some of the entries looked through give. -/
theorem of_findSomeM? {f : α → Except ε (Option β)} {l : List α} {b : β}
    (h : l.findSomeM? f = .ok (some b)) : ∃ a ∈ l, f a = .ok (some b) := by
  induction l with
  | nil => cases h
  | cons x l ih =>
    rw [List.findSomeM?_cons, bind_eq_ok] at h
    obtain ⟨r, hr, h⟩ := h
    cases r with
    | some c =>
      cases h
      exact ⟨x, List.mem_cons_self .., hr⟩
    | none =>
      obtain ⟨a, ha, hf⟩ := ih h
      exact ⟨a, List.mem_cons_of_mem _ ha, hf⟩

end Except

namespace Reporting

/-! ## 2.  Steps that report -/

/-- A result of a step, whatever was reported before. -/
def Gives (step : Reporting α) (a : α) : Prop := ∃ lines lines', step.run.run lines = (.ok a, lines')

theorem gives_of_outcome {step : Reporting α} {a : α} (h : step.outcome.2 = .ok a) :
    step.Gives a := by
  refine ⟨[], (step.run.run []).2, ?_⟩
  rw [← h]
  rfl

@[simp] theorem gives_pure {a b : α} : (pure a : Reporting α).Gives b ↔ a = b := by
  constructor
  · rintro ⟨lines, lines', h⟩
    exact Except.ok.inj (congrArg Prod.fst h)
  · rintro rfl
    exact ⟨[], [], rfl⟩

/-- What is known of two steps, one after the other, that have succeeded. -/
theorem Gives.bind {x : Reporting α} {f : α → Reporting β} {b : β} (h : (x >>= f).Gives b) :
    ∃ a, x.Gives a ∧ (f a).Gives b := by
  obtain ⟨lines, lines', h⟩ := h
  rw [ExceptT.run_bind, StateT.run_bind] at h
  cases hx : x.run.run lines with
  | mk r s =>
    rw [hx] at h
    cases r with
    | error e => cases congrArg Prod.fst h
    | ok a => exact ⟨a, ⟨lines, s, hx⟩, s, lines', h⟩

@[simp] theorem gives_ofExcept {r : Except Fault α} {a : α} : (ofExcept r).Gives a ↔ r = .ok a :=
  ⟨fun ⟨_, _, h⟩ => congrArg Prod.fst h, fun h => ⟨[], [], h ▸ rfl⟩⟩

/-- The result of a step does not depend on what was reported before. -/
def Ends (step : Reporting α) (r : Except Fault α) : Prop :=
  ∀ lines, ∃ lines', step.run.run lines = (r, lines')

theorem Ends.outcome {step : Reporting α} {r : Except Fault α} (h : step.Ends r) :
    step.outcome.2 = r := by
  obtain ⟨lines', hrun⟩ := h []
  exact congrArg Prod.fst hrun

theorem Ends.gives_iff {step : Reporting α} {r : Except Fault α} (h : step.Ends r) {a : α} :
    step.Gives a ↔ r = .ok a := by
  constructor
  · rintro ⟨lines, lines', hrun⟩
    obtain ⟨lines'', hrun'⟩ := h lines
    rw [hrun] at hrun'
    exact (congrArg Prod.fst hrun').symm
  · intro hr
    obtain ⟨lines', hrun⟩ := h []
    exact ⟨[], lines', hr ▸ hrun⟩

theorem outcome_map (f : α → β) (step : Reporting α) :
    (f <$> step).outcome = (step.outcome.1, step.outcome.2.map f) := by
  have hrun : (f <$> step).run.run [] =
      ((step.run.run []).1.map f, (step.run.run []).2) := by
    rw [ExceptT.run_map, StateT.run_map]
    rfl
  rw [outcome, outcome, hrun]
  rfl

theorem ends_pure (a : α) : (pure a : Reporting α).Ends (.ok a) := fun lines => ⟨lines, rfl⟩

theorem ends_throw (f : Fault) : (throw f : Reporting α).Ends (.error f) := fun lines => ⟨lines, rfl⟩

theorem ends_sayIf (condition : Bool) (line : Text) : (sayIf condition line).Ends (.ok ()) := by
  cases condition
  · exact ends_pure ()
  · exact fun lines => ⟨lines ++ [line], rfl⟩

/-- The result of two steps, one after the other. -/
theorem Ends.bind {x : Reporting α} {f : α → Reporting β} {r : Except Fault α}
    {g : α → Except Fault β} (hx : x.Ends r) (hf : ∀ a, (f a).Ends (g a)) :
    (x >>= f).Ends (r >>= g) := by
  intro lines
  obtain ⟨lines', hrun⟩ := hx lines
  rw [ExceptT.run_bind, StateT.run_bind, hrun]
  cases r with
  | error e => exact ⟨lines', rfl⟩
  | ok a => exact hf a lines'

/-- The result of several steps. -/
theorem ends_foldlM {f : β → α → Reporting β} {g : β → α → Except Fault β}
    (h : ∀ b a, (f b a).Ends (g b a)) (l : List α) (b : β) :
    (l.foldlM f b).Ends (l.foldlM g b) := by
  induction l generalizing b with
  | nil => exact ends_pure b
  | cons a l ih =>
    rw [List.foldlM_cons, List.foldlM_cons]
    exact (h b a).bind fun c => ih c

/-- A step for each entry of a list. -/
theorem ends_forIn {f : α → Reporting PUnit} (h : ∀ a, (f a).Ends (.ok ⟨⟩)) (l : List α) :
    (forIn l PUnit.unit fun a _ => do f a; pure (ForInStep.yield PUnit.unit) :
      Reporting PUnit).Ends (.ok ⟨⟩) := by
  induction l with
  | nil => exact ends_pure _
  | cons a l ih =>
    have hfirst : (do f a; pure (ForInStep.yield PUnit.unit) : Reporting _).Ends
        (.ok (.yield ⟨⟩)) := (h a).bind fun _ => ends_pure _
    rw [List.forIn_cons]
    refine hfirst.bind (g := fun _ => .ok PUnit.unit) fun step => ?_
    cases step with
    | done b => exact ends_pure b
    | yield b => exact ih

end Reporting

namespace Job

/-! ## 3.  Jobs -/

@[simp] theorem outcome_pure (a : α) (s : Session) : (pure a : Job α).outcome s = (.ok a, s) := rfl

/-- A job that is followed by others. -/
theorem outcome_bind (x : Job α) (f : α → Job β) (s : Session) :
    (x >>= f).outcome s =
      match x.outcome s with
      | (.ok a, s') => (f a).outcome s'
      | (.error e, s') => (.error e, s') := by
  rw [outcome, outcome, ExceptT.run_bind, StateT.run_bind]
  cases x.run.run s with
  | mk r s' =>
    cases r with
    | error e => rfl
    | ok a => rfl

theorem outcome_bind_of_ok {x : Job α} {s : Session} {a : α} (h : (x.outcome s).1 = .ok a)
    (f : α → Job β) : (x >>= f).outcome s = (f a).outcome (x.outcome s).2 := by
  rw [outcome_bind]
  cases ho : x.outcome s with
  | mk r s' =>
    rw [ho] at h
    obtain rfl : r = .ok a := h
    rfl

theorem outcome_bind_of_error {x : Job α} {s : Session} {e : Fault}
    (h : (x.outcome s).1 = .error e) (f : α → Job β) :
    (x >>= f).outcome s = (.error e, (x.outcome s).2) := by
  rw [outcome_bind]
  cases ho : x.outcome s with
  | mk r s' =>
    rw [ho] at h
    obtain rfl : r = .error e := h
    rfl

/-- A job whose failures are held back. -/
theorem outcome_attempt (job : Job α) (s : Session) :
    (attempt job).outcome s =
      match job.outcome s with
      | (.ok a, s') => (.ok (.ok a), s')
      | (.error f, s') => (if f.stopsAll then .error f else .ok (.error f), s') := by
  cases h : job.outcome s with
  | mk r s' =>
    rw [outcome, attempt, ExceptT.run_mk, StateT.run, h]
    cases r with
    | error f => rfl
    | ok a => rfl

/-- A job that leaves the files alone. -/
def Quiet (job : Job α) : Prop := ∀ s, (job.outcome s).2.disk = s.disk

theorem quiet_pure (a : α) : (pure a : Job α).Quiet := fun _ => rfl

theorem quiet_ofExcept (r : Except Fault α) : (ofExcept r).Quiet := fun _ => rfl

theorem quiet_throw (f : Fault) : (throw f : Job α).Quiet := fun _ => rfl

theorem quiet_say (line : Text) : (say line).Quiet := fun _ => rfl

theorem quiet_report (step : Reporting α) : (report step).Quiet := fun _ => rfl

theorem quiet_disk : disk.Quiet := fun _ => rfl

theorem Quiet.bind {x : Job α} {f : α → Job β} (hx : x.Quiet) (hf : ∀ a, (f a).Quiet) :
    (x >>= f).Quiet := by
  intro s
  have hs := hx s
  rw [outcome_bind]
  cases ho : x.outcome s with
  | mk r s' =>
    rw [ho] at hs
    cases r with
    | error e => exact hs
    | ok a => exact (hf a s').trans hs

theorem quiet_sayIf (condition : Bool) (line : Text) : (sayIf condition line).Quiet := by
  cases condition
  · exact quiet_pure ()
  · exact quiet_say line

theorem quiet_serviceKey (m : ModelSettings) : (serviceKey m).Quiet := by
  unfold serviceKey
  split
  · refine Quiet.bind (fun _ => rfl) fun s => ?_
    split
    · exact quiet_pure _
    · exact quiet_throw _
  · exact quiet_throw _

theorem quiet_nextReply : nextReply.Quiet := by
  intro s
  have hget : (get : Job Session).outcome s = (.ok s, s) := rfl
  rw [nextReply, outcome_bind, hget]
  dsimp only
  split
  · rfl
  · rfl

theorem quiet_request (m : ModelSettings) (role prompt : Text) (maxTokens : Value) :
    (request m role prompt maxTokens).Quiet := by
  unfold request
  refine (quiet_serviceKey m).bind fun key => ?_
  refine Quiet.bind (fun _ => rfl) fun _ => ?_
  exact quiet_nextReply.bind fun reply => quiet_ofExcept _

end Job

end UiHarness
