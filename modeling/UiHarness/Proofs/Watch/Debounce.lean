import UiHarness.Proofs.Steps
import UiHarness.Proofs.Table
import UiHarness.UnitEntry
import UiHarness.Watch

/-!
# What a debouncing handler hands over

A handler keeps one file and one time for each group, and forgets both when it hands the group over.
So nothing in its state tells how often a group has been handed over; that it was once for each
burst of events is a statement about what has happened, not about what is kept.  Hence the history:
all signals so far, each with the files that were handed over at it.  A file waits in a history if it
is that of an event after which the history has neither an event of the same group nor a hand-over of
it.  What is pending is what waits, and this is kept by every signal.

Times are exact if their differences are.  Nothing is said about their order: a flush compares its
time with those of the waiting files and with no others.

* `Debounce.Handler.run`: a handler, and the history that it leaves.
* `Debounce.Waiting`: a file that waits, and `Debounce.Pending`: what is pending is what waits.
* `Debounce.Account`: what is known of a history and of what is pending after it.
* `Debounce.account_of_run`: each flush hands over what waits and has been quiet for long enough.
-/

namespace UiHarness

/-! ## 1.  Times -/

/-- A finite number in units of the smallest positive one. -/
def Binary64.units? : Binary64 → Option Int
  | .finite negative units => some (Binary64.signed negative units)
  | _ => none

namespace Debounce

/-- Times with an exact difference. -/
def ExactTimes (now seen : Binary64) : Prop :=
  ∃ m n, now.units? = some m ∧ seen.units? = some n ∧ (now.sub seen).units? = some (m - n)

/-- How long a group must be quiet: some units of time, or longer than any time, or not at all. -/
inductive Period
  | units (n : Int)
  | endless
  | passed

/-- Whether so many units of time are enough. -/
def Period.isReached : Period → Int → Bool
  | units n, elapsed => n ≤ elapsed
  | endless, _ => false
  | passed, _ => true

/-- The period that a value says.  One that is infinite or no number never ends. -/
def period? : Value → Option Period
  | .float (.infinite true) => some .passed
  | .float (.infinite false) => some .endless
  | .float .nan => some .endless
  | v => v.units?.map .units

/-- Whether an event was seen at least so long ago. -/
def isSettled (quiet : Period) (now seen : Binary64) : Bool :=
  match now.units?, seen.units? with
  | some m, some n => quiet.isReached (m - n)
  | _, _ => false

/-- A quiet period is compared with the time between a flush and an event. -/
theorem isQuiet_eq {quiet : Value} {q : Period} (hq : period? quiet = some q) {now seen : Binary64}
    (h : ExactTimes now seen) : isQuiet quiet (now.sub seen) = .ok (isSettled q now seen) := by
  obtain ⟨m, n, hm, hn, hd⟩ := h
  rw [isSettled, hm, hn]
  cases hs : now.sub seen with
  | finite negative units =>
    rw [hs] at hd
    have hd : Binary64.signed negative units = m - n := Option.some.inj hd
    cases quiet with
    | bool b =>
      obtain rfl := Option.some.inj hq
      rw [isQuiet, Binary64.intLe, hd]
      dsimp only
      rw [Period.isReached]
      cases b with
      | false =>
        rw [if_neg Bool.false_ne_true, if_neg Bool.false_ne_true, Int.zero_mul]
      | true => rw [if_pos rfl, if_pos rfl, Int.one_mul]
    | int k =>
      obtain rfl := Option.some.inj hq
      rw [isQuiet, Binary64.intLe, hd]
      rfl
    | float x =>
      cases x with
      | finite negative' units' =>
        obtain rfl := Option.some.inj hq
        rw [isQuiet, Binary64.le, hd]
        rfl
      | infinite negative' =>
        cases negative'
        · obtain rfl := Option.some.inj hq
          rfl
        · obtain rfl := Option.some.inj hq
          rfl
      | nan =>
        obtain rfl := Option.some.inj hq
        rfl
    | null => cases hq
    | text t => cases hq
    | list vs => cases hq
    | table es => cases hq
    | moment k t => cases hq
  | infinite negative =>
    rw [hs] at hd
    cases hd
  | nan =>
    rw [hs] at hd
    cases hd

/-! ## 2.  One flush -/

/-- Among pairs of different keys, those with the keys of some are these. -/
theorem filter_mem_keys {α : Type} {l : List (Text × α)} (hl : (l.map Prod.fst).Nodup)
    (p : Text × α → Bool) :
    (l.filter fun e => e.1 ∈ (l.filter p).map Prod.fst) = l.filter p := by
  refine List.filter_congr fun e he => ?_
  rw [Bool.eq_iff_iff, decide_eq_true_eq, List.mem_map]
  constructor
  · rintro ⟨x, hx, hkey⟩
    obtain ⟨hx, hp⟩ := List.mem_filter.1 hx
    have hvalue := Table.lookup_of_mem hl hx
    rw [hkey, Table.lookup_of_mem hl he] at hvalue
    rwa [Prod.ext hkey.symm (Option.some.inj hvalue)]
  · exact fun hp => ⟨e, List.mem_filter.2 ⟨he, hp⟩, rfl⟩

theorem settledKeys_eq {quiet : Value} {now : Binary64} {test : Binary64 → Bool}
    {l : List (Text × Burst)}
    (h : ∀ e ∈ l, isQuiet quiet (now.sub e.2.seen) = .ok (test e.2.seen)) :
    settledKeys quiet now l = .ok ((l.filter fun e => test e.2.seen).map Prod.fst) := by
  induction l with
  | nil => rfl
  | cons e l ih =>
    obtain ⟨key, burst⟩ := e
    rw [settledKeys, h _ (List.mem_cons_self ..), ih fun x hx => h x (List.mem_cons_of_mem _ hx),
      List.filter_cons]
    cases test burst.seen
    · rfl
    · rfl

/-- **What a flush does**: the groups that have settled are handed over, the others stay. -/
theorem flush_eq {b : Debounce} {quiet : Value} {now : Binary64} (test : Binary64 → Bool)
    (h : ∀ e ∈ b.entries, isQuiet quiet (now.sub e.2.seen) = .ok (test e.2.seen)) :
    ∃ b', b.flush quiet now =
        .ok ((b.entries.filter fun e => test e.2.seen).map fun e => e.2.path, b') ∧
      b'.entries = b.entries.filter fun e => !test e.2.seen := by
  have hkeys := filter_mem_keys b.nodup fun e => test e.2.seen
  have hsettled : b.settled ((b.entries.filter fun e => test e.2.seen).map Prod.fst) =
      (b.entries.filter fun e => test e.2.seen).map fun e => e.2.path := by
    change ((b.entries.filter fun e =>
      e.1 ∈ (b.entries.filter fun e => test e.2.seen).map Prod.fst).map Prod.snd).map Burst.path = _
    rw [hkeys, List.map_map]
    rfl
  refine ⟨b.remaining ((b.entries.filter fun e => test e.2.seen).map Prod.fst), ?_, ?_⟩
  · rw [flush, settledKeys_eq h, ← hsettled]
    rfl
  · refine List.filter_congr fun e he => ?_
    have hiff : e ∈ (b.entries.filter fun x =>
        x.1 ∈ (b.entries.filter fun e => test e.2.seen).map Prod.fst) ↔
        e ∈ b.entries.filter fun e => test e.2.seen := by rw [hkeys]
    rw [List.mem_filter, List.mem_filter, and_iff_right he, and_iff_right he,
      decide_eq_true_eq] at hiff
    dsimp only
    rw [decide_not, Bool.not_inj_iff, Bool.eq_iff_iff, decide_eq_true_eq]
    exact hiff

/-! ## 3.  Handlers and their histories -/

/-- What reaches a handler, with its time. -/
inductive Signal
  | event (e : FileEvent) (now : Binary64)
  | flush (now : Binary64)

/-- The time of a signal. -/
def Signal.time : Signal → Binary64
  | .event _ now => now
  | .flush now => now

/-- Signals, each with the files that were handed over at it. -/
abbrev History := List (Signal × List Path)

/-- A handler: the ends of the names that it looks for, the group of each file, and how long a group
must be quiet. -/
structure Handler where
  ends : List Text
  key : Path → Text
  quiet : Value

namespace Handler

/-- What a signal hands over, and what is pending after it. -/
def step (h : Handler) (b : Debounce) : Signal → Except Fault (List Path × Debounce)
  | .event e now => do
    let b ← b.receive h.ends (fun p => .ok (h.key p)) now e
    .ok ([], b)
  | .flush now => b.flush h.quiet now

/-- One more signal, and what it hands over, in the history. -/
def extend (h : Handler) (s : History × Debounce) (x : Signal) :
    Except Fault (History × Debounce) := do
  let (files, b) ← h.step s.2 x
  .ok (s.1 ++ [(x, files)], b)

/-- Signals one after the other, from a handler with nothing pending. -/
def run (h : Handler) (xs : List Signal) : Except Fault (History × Debounce) :=
  xs.foldlM h.extend ([], Table.empty)

/-- The file that a signal brings. -/
def file? (h : Handler) : Signal → Option Path
  | .event e _ => (e.accepted? h.ends).map Path.ofText
  | .flush _ => none

/-- A signal that brings a file of a group, or at which one is handed over. -/
def Concerns (h : Handler) (key : Text) (x : Signal × List Path) : Prop :=
  (∃ p, h.file? x.1 = some p ∧ h.key p = key) ∨ ∃ p ∈ x.2, h.key p = key

end Handler

/-- A file that waits, and when it was seen: the history has an event of the file, and after it
neither an event of its group nor a hand-over of it. -/
def Waiting (h : Handler) (past : History) (p : Path) (seen : Binary64) : Prop :=
  ∃ front e files back, past = front ++ (.event e seen, files) :: back ∧
    h.file? (.event e seen) = some p ∧ ∀ x ∈ back, ¬ h.Concerns (h.key p) x

/-- The files that a flush hands over: those that wait and have been quiet for long enough, and not
two of one group. -/
structure HandsOver (h : Handler) (quiet : Period) (past : History) (now : Binary64)
    (files : List Path) : Prop where
  once : (files.map h.key).Nodup
  mem_iff : ∀ p, p ∈ files ↔ ∃ seen, Waiting h past p seen ∧ isSettled quiet now seen = true

/-- What is known of a history and of what is pending after it. -/
structure Account (h : Handler) (quiet : Period) (past : History) (b : Debounce) : Prop where
  pending : ∀ key p seen, b.get? key = some ⟨p, seen⟩ ↔ h.key p = key ∧ Waiting h past p seen
  flushes : ∀ front now files back, past = front ++ (.flush now, files) :: back →
    HandsOver h quiet front now files
  events : ∀ e now files, (.event e now, files) ∈ past → files = []

variable {h : Handler} {past : History} {p : Path} {seen : Binary64}

theorem not_waiting_nil : ¬ Waiting h [] p seen := by
  rintro ⟨front, e, files, back, hpast, -⟩
  exact List.append_ne_nil_of_right_ne_nil _ (List.cons_ne_nil _ _) hpast.symm

/-- **What one more signal makes of the files that wait.** -/
theorem waiting_concat {x : Signal} {files : List Path} :
    Waiting h (past ++ [(x, files)]) p seen ↔
      (∃ e, x = .event e seen ∧ h.file? x = some p) ∨
        (Waiting h past p seen ∧ ¬ h.Concerns (h.key p) (x, files)) := by
  constructor
  · rintro ⟨front, e, files', back, hpast, hfile, hback⟩
    rcases List.eq_nil_or_concat back with rfl | ⟨back, y, rfl⟩
    · obtain ⟨-, hlast⟩ := List.append_inj' hpast rfl
      obtain ⟨rfl, rfl⟩ := Prod.mk.inj (List.cons.inj hlast).1
      exact .inl ⟨e, rfl, hfile⟩
    · rw [List.concat_eq_append, ← List.cons_append, ← List.append_assoc] at hpast
      obtain ⟨rfl, hlast⟩ := List.append_inj' hpast rfl
      obtain rfl := (List.cons.inj hlast).1
      rw [List.concat_eq_append] at hback
      exact .inr ⟨⟨front, e, files', back, rfl, hfile,
        fun z hz => hback z (List.mem_append_left _ hz)⟩, hback _ (by simp)⟩
  · rintro (⟨e, rfl, hfile⟩ | ⟨⟨front, e, files', back, rfl, hfile, hback⟩, hnot⟩)
    · exact ⟨past, e, files, [], rfl, hfile, fun z hz => absurd hz List.not_mem_nil⟩
    · refine ⟨front, e, files', back ++ [(x, files)], by simp, hfile, fun z hz => ?_⟩
      rcases List.mem_append.1 hz with hz | hz
      · exact hback z hz
      · exact List.mem_singleton.1 hz ▸ hnot

/-- A signal that concerns no group changes nothing. -/
theorem waiting_concat_of_none {x : Signal} (hx : h.file? x = none) :
    Waiting h (past ++ [(x, [])]) p seen ↔ Waiting h past p seen := by
  rw [waiting_concat, hx]
  constructor
  · rintro (⟨e, -, hfile⟩ | ⟨hwait, -⟩)
    · cases hfile
    · exact hwait
  · refine fun hwait => .inr ⟨hwait, ?_⟩
    rintro (⟨q, hq, -⟩ | ⟨q, hq, -⟩)
    · rw [hx] at hq
      cases hq
    · cases hq

/-! ## 4.  One signal -/

variable {quiet : Period} {b : Debounce}

theorem account_nil : Account h quiet [] Table.empty where
  pending key p seen := by
    constructor
    · intro hget
      cases hget
    · exact fun hwait => absurd hwait.2 not_waiting_nil
  flushes front now files back hpast :=
    absurd hpast.symm (List.append_ne_nil_of_right_ne_nil _ (List.cons_ne_nil _ _))
  events e now files hmem := absurd hmem List.not_mem_nil

/-- What happened before one more signal has been accounted for. -/
theorem Account.concat {b' : Debounce} {x : Signal} {files : List Path}
    (ha : Account h quiet past b)
    (hpending : ∀ key p seen, b'.get? key = some ⟨p, seen⟩ ↔
      h.key p = key ∧ Waiting h (past ++ [(x, files)]) p seen)
    (hflush : ∀ now, x = .flush now → HandsOver h quiet past now files)
    (hevent : ∀ e now, x = .event e now → files = []) :
    Account h quiet (past ++ [(x, files)]) b' where
  pending := hpending
  flushes front now files' back hpast := by
    rcases List.eq_nil_or_concat back with rfl | ⟨back, y, rfl⟩
    · obtain ⟨rfl, hlast⟩ := List.append_inj' hpast rfl
      obtain ⟨rfl, rfl⟩ := Prod.mk.inj (List.cons.inj hlast).1
      exact hflush now rfl
    · rw [List.concat_eq_append, ← List.cons_append, ← List.append_assoc] at hpast
      obtain ⟨rfl, -⟩ := List.append_inj' hpast rfl
      exact ha.flushes front now files' back rfl
  events e now files' hmem := by
    rcases List.mem_append.1 hmem with hmem | hmem
    · exact ha.events e now files' hmem
    · obtain ⟨rfl, rfl⟩ := Prod.mk.inj (List.mem_singleton.1 hmem)
      exact hevent e now rfl

/-- What is pending is what waits. -/
def Pending (h : Handler) (past : History) (b : Debounce) : Prop :=
  ∀ key p seen, b.get? key = some ⟨p, seen⟩ ↔ h.key p = key ∧ Waiting h past p seen

/-- **An event** puts its file in the place of what was pending of its group. -/
theorem Pending.event (hb : Pending h past b) (e : FileEvent) (now : Binary64) :
    ∃ b', h.step b (.event e now) = .ok ([], b') ∧ Pending h (past ++ [(.event e now, [])]) b' := by
  rw [Handler.step, receive]
  cases he : e.accepted? h.ends with
  | none =>
    refine ⟨b, rfl, fun key p seen => ?_⟩
    rw [waiting_concat_of_none (by rw [Handler.file?, he]; rfl)]
    exact hb key p seen
  | some path =>
    have hfile : h.file? (.event e now) = some (.ofText path) := by
      rw [Handler.file?, he]
      rfl
    refine ⟨b.record (h.key (.ofText path)) (.ofText path) now, rfl, fun key p seen => ?_⟩
    rw [record, Table.get?_insert, waiting_concat, hfile]
    have hconcerns : ∀ key, h.Concerns key (.event e now, []) ↔ h.key (.ofText path) = key := by
      intro key
      constructor
      · rintro (⟨q, hq, hkey⟩ | ⟨q, hq, -⟩)
        · rw [hfile] at hq
          exact Option.some.inj hq ▸ hkey
        · cases hq
      · exact fun hkey => .inl ⟨_, hfile, hkey⟩
    by_cases hkey : h.key (.ofText path) = key
    · rw [if_pos hkey]
      constructor
      · intro hburst
        obtain ⟨rfl, rfl⟩ := Burst.mk.inj (Option.some.inj hburst)
        exact ⟨hkey, .inl ⟨e, rfl, rfl⟩⟩
      · rintro ⟨hp, ⟨e', hx, hq⟩ | ⟨-, hnot⟩⟩
        · obtain ⟨-, rfl⟩ := Signal.event.inj hx
          rw [Option.some.inj hq]
        · exact absurd ((hconcerns _).2 (hkey.trans hp.symm)) hnot
    · rw [if_neg hkey, hb]
      constructor
      · exact fun ⟨hp, hwait⟩ => ⟨hp, .inr ⟨hwait, fun hc => hkey (((hconcerns _).1 hc).trans hp)⟩⟩
      · rintro ⟨hp, ⟨e', -, hq⟩ | ⟨hwait, -⟩⟩
        · exact absurd (Option.some.inj hq ▸ hp) hkey
        · exact ⟨hp, hwait⟩

/-- What is pending belongs to the group of its file. -/
theorem Pending.waiting (hb : Pending h past b) :
    ∀ e ∈ b.entries, h.key e.2.path = e.1 ∧ Waiting h past e.2.path e.2.seen :=
  fun e he => (hb e.1 e.2.path e.2.seen).1 (Table.get?_of_mem he)

theorem Pending.mem_entries (hb : Pending h past b) (hwait : Waiting h past p seen) :
    (h.key p, ⟨p, seen⟩) ∈ b.entries :=
  Table.get?_eq_some.1 ((hb _ _ _).2 ⟨rfl, hwait⟩)

/-- **A flush** forgets what it hands over, and nothing else. -/
theorem Pending.flush (hb : Pending h past b) {b' : Debounce} {now : Binary64}
    {test : Binary64 → Bool} (hrest : b'.entries = b.entries.filter fun e => !test e.2.seen) :
    Pending h (past ++ [(.flush now,
      (b.entries.filter fun e => test e.2.seen).map fun e => e.2.path)]) b' := by
  -- what stays pending was not handed over, so its group was not
  intro key p seen
  rw [Table.get?_eq_some, hrest, List.mem_filter, ← Table.get?_eq_some, hb, waiting_concat,
    Bool.not_eq_true', and_assoc]
  refine and_congr_right fun hkey => ?_
  constructor
  · rintro ⟨hwait, hsettled⟩
    refine .inr ⟨hwait, ?_⟩
    rintro (⟨q, hfile, -⟩ | ⟨q, hmem, hsame⟩)
    · cases hfile
    · obtain ⟨e, he, rfl⟩ := List.mem_map.1 hmem
      obtain ⟨he, hdue⟩ := List.mem_filter.1 he
      have hburst := Table.get?_of_mem he
      rw [← (hb.waiting e he).1, hsame, Table.get?_eq_some.2 (hb.mem_entries hwait)] at hburst
      rw [← Option.some.inj hburst, hsettled] at hdue
      cases hdue
  · rintro (⟨e, hx, -⟩ | ⟨hwait, hnot⟩)
    · cases hx
    · refine ⟨hwait, Bool.not_eq_true _ ▸ fun hdue => hnot (.inr ⟨p, ?_, rfl⟩)⟩
      exact List.mem_map.2 ⟨_, List.mem_filter.2 ⟨hb.mem_entries hwait, hdue⟩, rfl⟩

/-- An event hands over nothing. -/
theorem Account.event (ha : Account h quiet past b) (e : FileEvent) (now : Binary64) :
    ∃ b', h.step b (.event e now) = .ok ([], b') ∧
      Account h quiet (past ++ [(.event e now, [])]) b' := by
  obtain ⟨b', hstep, hb'⟩ := Pending.event ha.pending e now
  exact ⟨b', hstep, ha.concat hb' (fun _ hx => by cases hx) fun _ _ _ => rfl⟩

/-- A flush hands over what waits and has settled. -/
theorem Account.flush (ha : Account h quiet past b) (hq : period? h.quiet = some quiet)
    {now : Binary64} (hexact : ∀ x ∈ past, ExactTimes now x.1.time) :
    ∃ files b', h.step b (.flush now) = .ok (files, b') ∧
      Account h quiet (past ++ [(.flush now, files)]) b' := by
  have hb : Pending h past b := ha.pending
  obtain ⟨b', hflush, hrest⟩ := flush_eq (b := b) (isSettled quiet now) fun e he => by
    obtain ⟨front, e', files, back, hpast, -⟩ := (hb.waiting e he).2
    exact isQuiet_eq hq (hexact (.event e' e.2.seen, files) (by rw [hpast]; simp))
  refine ⟨_, b', hflush, ha.concat (hb.flush hrest) (fun now' hx => ?_) fun _ _ hx => by cases hx⟩
  obtain rfl := Signal.flush.inj hx
  refine ⟨?_, fun p => ?_⟩
  · have hkeys : ((b.entries.filter fun e => isSettled quiet now e.2.seen).map
        fun e => e.2.path).map h.key =
        (b.entries.filter fun e => isSettled quiet now e.2.seen).map Prod.fst := by
      rw [List.map_map]
      exact List.map_congr_left fun e he => (hb.waiting e (List.mem_filter.1 he).1).1
    rw [hkeys]
    exact List.Nodup.sublist (List.filter_sublist.map _) b.nodup
  · constructor
    · intro hmem
      obtain ⟨e, he, rfl⟩ := List.mem_map.1 hmem
      obtain ⟨he, hdue⟩ := List.mem_filter.1 he
      exact ⟨e.2.seen, (hb.waiting e he).2, hdue⟩
    · rintro ⟨seen, hwait, hdue⟩
      exact List.mem_map.2 ⟨_, List.mem_filter.2 ⟨hb.mem_entries hwait, hdue⟩, rfl⟩

/-! ## 5.  All signals -/

/-- What one more signal makes of what is known. -/
theorem Account.extend (ha : Account h quiet past b) (hq : period? h.quiet = some quiet)
    (x : Signal) (hexact : ∀ y ∈ past, ExactTimes x.time y.1.time) :
    ∃ files b', h.extend (past, b) x = .ok (past ++ [(x, files)], b') ∧
      Account h quiet (past ++ [(x, files)]) b' := by
  obtain ⟨files, b', hx, ha'⟩ : ∃ files b', h.step b x = .ok (files, b') ∧
      Account h quiet (past ++ [(x, files)]) b' := by
    cases x with
    | event e now => exact ⟨[], ha.event e now⟩
    | flush now => exact ha.flush hq hexact
  exact ⟨files, b', by rw [Handler.extend, hx]; rfl, ha'⟩

/-- Signals extend a history one after the other. -/
theorem Account.foldlM (ha : Account h quiet past b) (hq : period? h.quiet = some quiet)
    {xs rest : List Signal} (hexact : ∀ x ∈ xs, ∀ y ∈ xs, ExactTimes x.time y.time)
    (hxs : past.map Prod.fst ++ rest = xs) : ∃ past' b',
      rest.foldlM h.extend (past, b) = .ok (past', b') ∧ past'.map Prod.fst = xs ∧
        Account h quiet past' b' := by
  induction rest generalizing past b with
  | nil => exact ⟨past, b, rfl, by rw [← hxs, List.append_nil], ha⟩
  | cons x rest ih =>
    have hx : x ∈ xs := hxs ▸ List.mem_append_right _ (List.mem_cons_self ..)
    have hpast : ∀ y ∈ past, y.1 ∈ xs :=
      fun y hy => hxs ▸ List.mem_append_left _ (List.mem_map_of_mem hy)
    obtain ⟨files, b', hextend, ha'⟩ := ha.extend hq x fun y hy => hexact x hx y.1 (hpast y hy)
    rw [List.foldlM_cons, hextend]
    exact ih ha' (by rw [← hxs, List.map_append, List.append_assoc]; rfl)

/-- **Every burst is handed over once.**  Signals whose times have exact differences can all be
taken in, in whatever order they come, and at each flush exactly those files are handed over that
wait and have been quiet for long enough: one for each such group, the one of its latest event.  At
an event nothing is handed over, and what is pending in the end is what still waits. -/
theorem account_of_run {h : Handler} {quiet : Period} (hq : period? h.quiet = some quiet)
    {xs : List Signal} (hexact : ∀ x ∈ xs, ∀ y ∈ xs, ExactTimes x.time y.time) :
    ∃ past b, h.run xs = .ok (past, b) ∧ past.map Prod.fst = xs ∧ Account h quiet past b :=
  account_nil.foldlM hq hexact rfl

/-- A handler that groups files by their directories and waits for half a second. -/
def directoryHandler : Handler :=
  { ends := [".ts"], key := fun p => p.parent.text, quiet := .float (.ofDecimal false 5 (-1)) }

/-- Two files of one directory, three looks, and a file that is renamed. -/
def twoBursts : List Signal :=
  [.event (.created "w/a.ts") (.ofInt 0), .event (.created "w/b.ts") (.ofDecimal false 25 (-2)),
    .flush (.ofDecimal false 5 (-1)), .flush (.ofInt 1),
    .event (.moved "w/b.ts" "w/c.ts") (.ofInt 1), .event (.directoryCreated "w/d.ts") (.ofInt 2),
    .flush (.ofInt 2), .flush (.ofInt 3)]

instance (now seen : Binary64) : Decidable (ExactTimes now seen) :=
  decidable_of_iff ((now.units?.any fun m => seen.units?.any fun n =>
    (now.sub seen).units? = some (m - n)) = true) (by
      simp only [ExactTimes, Option.any_eq_true, decide_eq_true_eq, exists_and_left])

/-- The case of two bursts in one directory: each is handed over once, as its latest file. -/
theorem account_of_twoBursts : ∃ quiet past b,
    period? directoryHandler.quiet = some quiet ∧
    (∀ x ∈ twoBursts, ∀ y ∈ twoBursts, ExactTimes x.time y.time) ∧
    directoryHandler.run twoBursts = .ok (past, b) ∧ past.map Prod.fst = twoBursts ∧
    past.map (fun x => x.2.map Path.text) = [[], [], [], ["w/b.ts".toList], [], [],
      ["w/c.ts".toList], []] ∧
    Account directoryHandler quiet past b := by
  have hexact : ∀ x ∈ twoBursts, ∀ y ∈ twoBursts, ExactTimes x.time y.time := by decide +kernel
  have hfiles : ((directoryHandler.run twoBursts).toOption.any fun r =>
      r.1.map (fun x => x.2.map Path.text) = [[], [], [], ["w/b.ts".toList], [], [],
        ["w/c.ts".toList], []]) = true := by decide +kernel
  obtain ⟨quiet, hq⟩ := Option.isSome_iff_exists.1
    (show (period? directoryHandler.quiet).isSome = true by decide +kernel)
  obtain ⟨past, b, hrun, hpast, ha⟩ := account_of_run hq hexact
  rw [hrun] at hfiles
  exact ⟨quiet, past, b, hq, hexact, hrun, hpast, of_decide_eq_true hfiles, ha⟩

end Debounce

namespace Watch

/-- The watcher takes in events as a handler does that groups files by their units. -/
theorem deliver_eq_step {s : Settings} {here : Location} {unitOf : Path → Text}
    (hkey : ∀ p, key s here p = .ok (unitOf p)) (now : Binary64) (b : Debounce) (e : FileEvent) :
    (deliver s here now b e).map (fun b => ([], b)) =
      Debounce.Handler.step ⟨Source.extensions, unitOf, s.quietSeconds⟩ b (.event e now) := by
  rw [deliver, Debounce.Handler.step, funext hkey]
  cases b.receive Source.extensions (fun p => .ok (unitOf p)) now e with
  | error f => rfl
  | ok b => rfl

end Watch

end UiHarness
