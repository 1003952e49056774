import UiHarness.Artifact
import UiHarness.Proofs.Disk

/-!
# What writing does to a disk

Writing makes directories and files and takes nothing away.  What a file holds after many writes is
decided by the last one that led to it.

* `Disk.readText_of_save`: a text that was saved is read back.
* `Disk.lastAt?`: the text of the last of some writes to a location.
* `Disk.Wrote`: a disk that came of some writes; `Disk.Wrote.trans` chains them.
* `Artifact.saveAll_wrote`: writing texts one after the other, up to the first failure.
-/

namespace UiHarness

namespace Disk

/-! ## 1.  One write -/

theorem widened_of_makeOne {d d' : Disk} {p : Path} (h : d.makeOne p = .ok d') : Widened d d' := by
  rw [makeOne] at h
  cases hl : d.locate p with
  | error why =>
    rw [hl] at h
    cases h
  | ok l =>
    rw [hl] at h
    dsimp only at h
    split at h
    · cases h
    · rename_i hnone _
      cases h
      exact widened_put hnone
    · cases h
    · cases h

/-- Making a directory with those above it makes directories, whether it succeeds or not. -/
theorem widened_makeWithin (n : Nat) (d : Disk) (p : Path) : Widened d (d.makeWithin n p).1 := by
  induction n generalizing d p with
  | zero => exact Widened.refl d
  | succ n ih =>
    rw [makeWithin]
    split
    · rename_i d' h
      exact widened_of_makeOne h
    · split
      · exact Widened.refl d
      · have hparent := ih d p.parent
        split
        · rename_i d' f h
          rwa [h] at hparent
        · rename_i d' h
          rw [h] at hparent
          split
          · rename_i d'' h'
            exact hparent.trans (widened_of_makeOne h')
          · exact hparent
    · exact Widened.refl d

/-- A disk that came of another one by making a file, and perhaps directories. -/
structure WroteFile (d : Disk) (p : Path) (t : Text) (d' : Disk) : Prop extends Grown d d' where
  files : ∃ l, d'.locate p = .ok l ∧
    ∀ l', d'.fileAt? l' = if l.Same l' then some (Text.encode t) else d.fileAt? l'

theorem wroteFile_of_writeText {d d' : Disk} {p : Path} {t : Text} (h : d.writeText p t = .ok d') :
    WroteFile d p t d' := by
  rw [writeText, writeBytes] at h
  cases hl : d.locate p with
  | error why =>
    rw [hl] at h
    cases h
  | ok l =>
    rw [hl] at h
    dsimp only at h
    split at h
    · cases h
    · rename_i _ hdir
      cases h
      have hne : l ≠ [] := by
        rintro rfl
        exact hdir rfl
      have hgrown := grown_put (fun h => hdir h) (Text.encode t)
      exact ⟨hgrown, l, locate_of_grown hgrown hl, fun l' => fileAt?_put hne _⟩
    · cases h
    · cases h

/-- **What saving a text does**: it makes the file, or only directories if it fails. -/
theorem save_cases (d : Disk) (p : Path) (t : Text) :
    ((d.save p t).2 = .ok () ∧ WroteFile d p t (d.save p t).1) ∨
      ∃ f, (d.save p t).2 = .error f ∧ Widened d (d.save p t).1 := by
  have hdirs := widened_makeWithin (p.parent.parts.length + 1) d p.parent
  rw [save, makeDirectory]
  split
  · rename_i d' f h
    rw [h] at hdirs
    exact .inr ⟨f, rfl, hdirs⟩
  · rename_i d' h
    rw [h] at hdirs
    split
    · rename_i d'' h'
      have hw := wroteFile_of_writeText h'
      obtain ⟨l, hl, hfiles⟩ := hw.files
      refine .inl ⟨rfl, hdirs.toGrown.trans hw.toGrown, l, hl, fun l' => ?_⟩
      rw [hfiles, hdirs.files]
    · rename_i f h'
      exact .inr ⟨f, rfl, hdirs⟩

/-- **What was saved is there and is read back**, with its line ends unified. -/
theorem readText_of_save {d d' : Disk} {p : Path} {t : Text} (h : d.save p t = (d', .ok ())) :
    d'.contains p = .ok true ∧ d'.readText p = .ok (Text.unifyLineEnds t) := by
  rcases save_cases d p t with ⟨-, hwrote⟩ | ⟨f, hf, -⟩
  · rw [h] at hwrote
    obtain ⟨l, hl, hfiles⟩ := hwrote.files
    have hfile := (hfiles l).trans (if_pos (Location.Same.refl l))
    exact ⟨contains_of_locate hl (fileAt?_eq_some.1 hfile), readText_of_fileAt? hl hfile⟩
  · rw [h] at hf
    cases hf

theorem overwrite_cases (d : Disk) (p : Path) (t : Text) :
    ((d.overwrite p t).2 = .ok () ∧ WroteFile d p t (d.overwrite p t).1) ∨
      ∃ f, (d.overwrite p t).2 = .error f ∧ Widened d (d.overwrite p t).1 := by
  rw [overwrite]
  split
  · rename_i f _
    exact .inr ⟨f, rfl, Widened.refl d⟩
  · exact save_cases d p t

/-! ## 2.  Many writes -/

/-- A path and the text that is to be written there. -/
abbrev Write := Path × Text

/-- Whether a path leads to a location. -/
def leadsTo (d : Disk) (p : Path) (l : Location) : Bool :=
  match d.locate p with
  | .ok l' => decide (l'.Same l)
  | .error _ => false

theorem leadsTo_iff {d : Disk} {p : Path} {l : Location} :
    d.leadsTo p l = true ↔ ∃ l', d.locate p = .ok l' ∧ l'.Same l := by
  rw [leadsTo]
  split
  · rename_i l' h
    rw [decide_eq_true_eq]
    constructor
    · exact fun hs => ⟨l', h, hs⟩
    · rintro ⟨k, hk, hs⟩
      rw [h] at hk
      exact Except.ok.inj hk ▸ hs
  · rename_i why h
    refine ⟨fun h' => absurd h' Bool.false_ne_true, ?_⟩
    rintro ⟨k, hk, -⟩
    rw [h] at hk
    cases hk

/-- A path that led to a location leads there after growth. -/
theorem leadsTo_of_locate {d d' : Disk} (h : Grown d d') {p : Path} {l : Location}
    (hl : d.locate p = .ok l) : d'.leadsTo p l = true :=
  leadsTo_iff.2 ⟨l, locate_of_grown h hl, .refl l⟩

/-- A path that led to a location does not lead elsewhere after growth. -/
theorem same_of_leadsTo {d d' : Disk} (h : Grown d d') {p : Path} {l l' : Location}
    (hl : d.locate p = .ok l) (hleads : d'.leadsTo p l' = true) : l.Same l' := by
  obtain ⟨k, hk, hsame⟩ := leadsTo_iff.1 hleads
  rw [locate_of_grown h hl] at hk
  exact Except.ok.inj hk ▸ hsame

/-- The text of the last of some writes to a location. -/
def lastAt? (d : Disk) (l : Location) : List Write → Option Text
  | [] => none
  | w :: ws => (d.lastAt? l ws).or (if d.leadsTo w.1 l then some w.2 else none)

theorem lastAt?_append (d : Disk) (l : Location) (ws ws' : List Write) :
    d.lastAt? l (ws ++ ws') = (d.lastAt? l ws').or (d.lastAt? l ws) := by
  induction ws with
  | nil => rw [List.nil_append, lastAt?, Option.or_none]
  | cons w ws ih => rw [List.cons_append, lastAt?, ih, Option.or_assoc, lastAt?]

/-- If no list of several has a text for a location, none of them has one. -/
theorem lastAt?_eq_none_of_mem_flatten {d : Disk} {l : Location} {wss : List (List Write)}
    {ws : List Write} (h : d.lastAt? l wss.flatten = none) (hws : ws ∈ wss) :
    d.lastAt? l ws = none := by
  induction wss with
  | nil => cases hws
  | cons ws' wss ih =>
    rw [List.flatten_cons, lastAt?_append, Option.or_eq_none_iff] at h
    rcases List.mem_cons.1 hws with rfl | hws
    · exact h.2
    · exact ih h.1 hws

/-- The last text is that of one of the writes. -/
theorem exists_of_lastAt? {d : Disk} {l : Location} {ws : List Write} {t : Text}
    (h : d.lastAt? l ws = some t) : ∃ p, (p, t) ∈ ws ∧ d.leadsTo p l = true := by
  induction ws with
  | nil => cases h
  | cons w ws ih =>
    rw [lastAt?, Option.or_eq_some_iff] at h
    rcases h with h | ⟨-, h⟩
    · obtain ⟨p, hp, hl⟩ := ih h
      exact ⟨p, List.mem_cons_of_mem _ hp, hl⟩
    · by_cases hw : d.leadsTo w.1 l = true
      · rw [if_pos hw] at h
        exact ⟨w.1, Option.some.inj h ▸ List.mem_cons_self .., hw⟩
      · rw [if_neg hw] at h
        cases h

/-- A location to which some write leads has a last text. -/
theorem isSome_lastAt? {d : Disk} {l : Location} {ws : List Write} {w : Write} (hw : w ∈ ws)
    (hl : d.leadsTo w.1 l = true) : ∃ t, d.lastAt? l ws = some t := by
  induction ws with
  | nil => cases hw
  | cons x ws ih =>
    rw [lastAt?]
    rcases List.mem_cons.1 hw with rfl | hw
    · rw [if_pos hl]
      cases d.lastAt? l ws with
      | none => exact ⟨_, Option.none_or⟩
      | some t => exact ⟨t, Option.some_or⟩
    · obtain ⟨t, ht⟩ := ih hw
      exact ⟨t, by rw [ht, Option.some_or]⟩

/-- The last of several lists of writes that has a text for a location decides. -/
theorem exists_of_lastAt?_flatten {d : Disk} {l : Location} {wss : List (List Write)} {t : Text}
    (h : d.lastAt? l wss.flatten = some t) : ∃ (j : Nat) (ws : List Write), wss[j]? = some ws ∧
      d.lastAt? l ws = some t ∧
      ∀ i ws', j < i → wss[i]? = some ws' → d.lastAt? l ws' = none := by
  induction wss with
  | nil => cases h
  | cons ws wss ih =>
    rw [List.flatten_cons, lastAt?_append] at h
    cases hrest : d.lastAt? l wss.flatten with
    | some t' =>
      rw [hrest, Option.some_or] at h
      obtain ⟨j, ws', hj, ht, hlater⟩ := ih (hrest.trans h)
      refine ⟨j + 1, ws', hj, ht, fun i ws'' hi hws => ?_⟩
      cases i with
      | zero => exact absurd hi (Nat.not_lt_zero _)
      | succ i => exact hlater i ws'' (Nat.lt_of_succ_lt_succ hi) hws
    | none =>
      rw [hrest, Option.none_or] at h
      refine ⟨0, ws, rfl, h, fun i ws'' hi hws => ?_⟩
      cases i with
      | zero => exact absurd hi (Nat.lt_irrefl _)
      | succ i => exact lastAt?_eq_none_of_mem_flatten hrest (List.mem_of_getElem? hws)

theorem leadsTo_of_grown {d d' : Disk} (h : Grown d d') {p : Path} {l l' : Location}
    (hp : d.locate p = .ok l') : d'.leadsTo p l = d.leadsTo p l := by
  rw [leadsTo, leadsTo, hp, locate_of_grown h hp]

/-- Growth does not change which of some writes was the last one. -/
theorem lastAt?_of_grown {d d' : Disk} (h : Grown d d') {l : Location} {ws : List Write}
    (hws : ∀ w ∈ ws, ∃ l', d.locate w.1 = .ok l') : d'.lastAt? l ws = d.lastAt? l ws := by
  induction ws with
  | nil => rfl
  | cons w ws ih =>
    obtain ⟨l', hl'⟩ := hws w (List.mem_cons_self ..)
    rw [lastAt?, lastAt?, ih fun x hx => hws x (List.mem_cons_of_mem _ hx),
      leadsTo_of_grown h hl']

/-- A disk that came of another one by some writes, one after the other. -/
structure Wrote (d : Disk) (ws : List Write) (d' : Disk) : Prop extends Grown d d' where
  located : ∀ w ∈ ws, ∃ l, d'.locate w.1 = .ok l
  files : ∀ l, d'.fileAt? l = ((d'.lastAt? l ws).map Text.encode).or (d.fileAt? l)

theorem Widened.wrote {d d' : Disk} (h : Widened d d') : Wrote d [] d' :=
  ⟨h.toGrown, fun _ hw => absurd hw List.not_mem_nil, fun l => h.files l⟩

theorem WroteFile.wrote {d d' : Disk} {p : Path} {t : Text} (h : WroteFile d p t d') :
    Wrote d [(p, t)] d' := by
  obtain ⟨l, hl, hfiles⟩ := h.files
  refine ⟨h.toGrown, fun w hw => ?_, fun l' => ?_⟩
  · rw [List.mem_singleton] at hw
    exact ⟨l, hw ▸ hl⟩
  · rw [hfiles, lastAt?, lastAt?, Option.none_or, leadsTo, hl]
    by_cases hs : l.Same l'
    · simp only [hs, decide_true, if_true, Option.map_some, Option.some_or]
    · simp only [hs, decide_false, if_false, Option.map_none, Option.none_or, Bool.false_eq_true]

/-- **Writes follow writes.** -/
theorem Wrote.trans {d d' d'' : Disk} {ws ws' : List Write} (h : Wrote d ws d')
    (h' : Wrote d' ws' d'') : Wrote d (ws ++ ws') d'' := by
  refine ⟨h.toGrown.trans h'.toGrown, fun w hw => ?_, fun l => ?_⟩
  · rcases List.mem_append.1 hw with hw | hw
    · obtain ⟨l, hl⟩ := h.located w hw
      exact ⟨l, locate_of_grown h'.toGrown hl⟩
    · exact h'.located w hw
  · rw [h'.files, h.files, lastAt?_append, lastAt?_of_grown h'.toGrown h.located, Option.map_or,
      Option.or_assoc]

/-- The writes of a list that are made, up to the first failure. -/
def made (d : Disk) : List Write → List Write
  | [] => []
  | (p, t) :: ws =>
    match d.overwrite p t with
    | (d', .ok ()) => (p, t) :: made d' ws
    | (_, .error _) => []

/-- The writes that are made are among those that were to be made. -/
theorem mem_of_mem_made {d : Disk} {ws : List Write} {w : Write} (h : w ∈ d.made ws) :
    w ∈ ws := by
  induction ws generalizing d with
  | nil => cases h
  | cons x ws ih =>
    obtain ⟨p, t⟩ := x
    rw [made] at h
    split at h
    · rcases List.mem_cons.1 h with rfl | h
      · exact List.mem_cons_self ..
      · exact List.mem_cons_of_mem _ (ih h)
    · cases h

end Disk

namespace Artifact

open Disk

/-- **Writing texts one after the other** makes the writes up to the first failure, and all of them
if there is none. -/
theorem saveAll_wrote (d : Disk) (ws : List Write) :
    Wrote d (d.made ws) (saveAll d ws).1 ∧ ((saveAll d ws).2 = .ok () → d.made ws = ws) := by
  induction ws generalizing d with
  | nil => exact ⟨(Widened.refl d).wrote, fun _ => rfl⟩
  | cons w ws ih =>
    obtain ⟨p, t⟩ := w
    have hcases := overwrite_cases d p t
    rw [saveAll, made]
    rcases hcases with ⟨hok, hw⟩ | ⟨f, herr, hw⟩
    · cases ho : d.overwrite p t with
      | mk d' r =>
        rw [ho] at hok hw
        dsimp only at hok hw
        subst hok
        obtain ⟨hrest, hall⟩ := ih d'
        exact ⟨hw.wrote.trans hrest, fun h => congrArg _ (hall h)⟩
    · cases ho : d.overwrite p t with
      | mk d' r =>
        rw [ho] at herr hw
        dsimp only at herr hw
        subst herr
        exact ⟨hw.wrote, fun h => by cases h⟩

end Artifact

end UiHarness
