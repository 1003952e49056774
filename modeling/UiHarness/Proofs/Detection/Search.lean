import Mathlib.Data.List.Basic
import UiHarness.Detection
import UiHarness.Proofs.Steps

/-!
# Looking for units among files

Widgets and pages are looked for in one way: each file has a place or none, places whose roots have
been seen are passed over, and at each other place there is a new unit or none.  The roots that have
been seen are marked before anything is known of the units there.  So what is found depends on the
places of the files only, each taken once, in the order in which they first occur.

* `List.nodup_eraseDups`, `List.filter_eraseDups`: lists without what occurs again.
* `Scan.distinct_eq`: the names that are taken once.
* `Detection.Search.run`: the search, and `Search.find` its result without the lines it reports.
* `Detection.Search.find_eq_ok`: what is found, as a list of distinct places.
* `Detection.Search.run_seen`: files of places that have been seen change nothing.
* `Detection.Search.find_append`, `Detection.Search.find_perm`: more files, and another order.
* `Detection.Search.run_of_place`: files of one place.
-/

namespace List

variable {α β : Type} [BEq α] [LawfulBEq α] [BEq β] [LawfulBEq β]

/-! ## 1.  First occurrences -/

/-- What occurs again can be dropped before a choice or after it. -/
theorem filter_eraseDups (p : α → Bool) (l : List α) :
    l.eraseDups.filter p = (l.filter p).eraseDups := by
  induction hn : l.length using Nat.strongRecOn generalizing l with
  | ind n ih =>
    cases l with
    | nil => rfl
    | cons a l =>
      have hrest : (l.filter fun b => !b == a).length < n := by
        rw [← hn]
        exact Nat.lt_succ_of_le (length_filter_le _ _)
      rw [eraseDups_cons]
      by_cases ha : p a = true
      · rw [filter_cons_of_pos ha, filter_cons_of_pos ha, eraseDups_cons, ih _ hrest _ rfl,
          filter_filter, filter_filter]
        simp only [Bool.and_comm]
      · rw [filter_cons_of_neg ha, filter_cons_of_neg ha, ih _ hrest _ rfl, filter_filter]
        congr 1
        refine filter_congr fun b _ => ?_
        by_cases hb : b = a
        · rw [hb, Bool.eq_false_iff.2 ha, Bool.false_and]
        · rw [beq_eq_false_iff_ne.2 hb, Bool.not_false, Bool.and_true]

/-- The first entry, and those that differ from it. -/
theorem eraseDups_cons_eq (a : α) (l : List α) :
    (a :: l).eraseDups = a :: l.eraseDups.filter (fun b => !b == a) := by
  rw [eraseDups_cons, filter_eraseDups]

/-- What is told apart first occurs together with what it is told apart by. -/
theorem map_eraseDups {f : α → β} {l : List α} (h : ∀ a ∈ l, ∀ b ∈ l, f a = f b → a = b) :
    l.eraseDups.map f = (l.map f).eraseDups := by
  induction l with
  | nil => rfl
  | cons a l ih =>
    have hfilter : (l.eraseDups.filter fun b => !b == a).map f =
        (l.eraseDups.map f).filter fun c => !c == f a := by
      rw [filter_map]
      congr 1
      refine filter_congr fun b hb => ?_
      by_cases hab : b = a
      · rw [hab, Function.comp_apply, beq_self_eq_true, beq_self_eq_true]
      · have hne : f b ≠ f a := fun heq =>
          hab (h b (mem_cons_of_mem _ (mem_eraseDups.1 hb)) a (mem_cons_self ..) heq)
        rw [Function.comp_apply, beq_eq_false_iff_ne.2 hab, beq_eq_false_iff_ne.2 hne]
    rw [eraseDups_cons_eq, map_cons, map_cons, eraseDups_cons_eq, hfilter,
      ih fun b hb c hc => h b (mem_cons_of_mem _ hb) c (mem_cons_of_mem _ hc)]

theorem nodup_eraseDups (l : List α) : l.eraseDups.Nodup := by
  induction l with
  | nil => exact nodup_nil
  | cons a l ih =>
    rw [eraseDups_cons_eq, nodup_cons, mem_filter, not_and]
    exact ⟨fun _ h => by simp at h, ih.filter _⟩

/-- Lists of the same entries in another order have the same entries that first occur. -/
theorem Perm.eraseDups {l l' : List α} (h : l.Perm l') : l.eraseDups.Perm l'.eraseDups :=
  (perm_ext_iff_of_nodup (nodup_eraseDups l) (nodup_eraseDups l')).2 fun a => by
    rw [mem_eraseDups, mem_eraseDups, h.mem_iff]

end List

namespace UiHarness.Scan

/-- Members that have been seen are dropped, and of the others what occurs again. -/
theorem distinctFrom_eq (seen ts : List Text) :
    distinctFrom seen ts = (ts.filter (· ∉ seen)).eraseDups := by
  induction ts generalizing seen with
  | nil => rfl
  | cons t ts ih =>
    rw [distinctFrom]
    split
    · rename_i hseen
      rw [ih, List.filter_cons_of_neg (by simpa using hseen)]
    · rename_i hnew
      rw [ih, List.filter_cons_of_pos (by simpa using hnew), List.eraseDups_cons_eq,
        List.filter_eraseDups, List.filter_filter]
      congr 2
      refine List.filter_congr fun u _ => ?_
      simp [not_or, beq_eq_decide]

theorem distinct_eq (ts : List Text) : distinct ts = ts.eraseDups := by
  rw [distinct, distinctFrom_eq, List.filter_eq_self.2 fun t _ => decide_eq_true List.not_mem_nil]

end UiHarness.Scan

namespace UiHarness.Detection

/-! ## 2.  Searching -/

/-- How units of one kind are looked for: the place of a file, the root at a place, the unit there,
and what is reported of one that has been served. -/
structure Search (π : Type) where
  place? : Text → Except Fault (Option π)
  root : π → Text
  unit? : π → Except Fault (Option UiUnit)
  skipped : π → Text

/-- A unit, unless one of its generated files exists. -/
def unserved (d : Disk) (s : Settings) : Option UiUnit → Except Fault (Option UiUnit)
  | none => .ok none
  | some u => do if ← Artifact.exist d s u then .ok none else .ok (some u)

theorem ends_unlessServed (d : Disk) (s : Settings) (skipped : Text) (found : Option UiUnit) :
    (unlessServed d s skipped found).Ends ((unserved d s found).map Option.toList) := by
  cases found with
  | none => exact Reporting.ends_pure []
  | some u =>
    rw [unlessServed, unserved]
    cases hexist : Artifact.exist d s u with
    | error f => exact fun lines => ⟨lines, rfl⟩
    | ok served =>
      cases served with
      | false => exact Reporting.ends_pure [u]
      | true =>
        exact (Reporting.ends_sayIf _ _).bind (g := fun _ => .ok []) fun _ => Reporting.ends_pure []

namespace Search

variable {π : Type} (σ : Search π) (d : Disk) (s : Settings)

/-- The new units for files, apart from those whose roots have been seen. -/
def run (seen : List Text) : List Text → Reporting (List UiUnit)
  | [] => return []
  | file :: files => do
    match ← Reporting.ofExcept (σ.place? file) with
    | none => run seen files
    | some p =>
      if σ.root p ∈ seen then run seen files
      else
        let found ← Reporting.ofExcept (σ.unit? p)
        let here ← unlessServed d s (σ.skipped p) found
        return here ++ (← run (σ.root p :: seen) files)

/-- The new unit at a place. -/
def new? (p : π) : Except Fault (Option UiUnit) := do unserved d s (← σ.unit? p)

/-- The result of the search. -/
def find (seen : List Text) : List Text → Except Fault (List UiUnit)
  | [] => .ok []
  | file :: files => do
    match ← σ.place? file with
    | none => find seen files
    | some p =>
      if σ.root p ∈ seen then find seen files
      else
        let here ← σ.new? d s p
        let rest ← find (σ.root p :: seen) files
        .ok (here.toList ++ rest)

/-- **The search ends with its result**, whatever it reports. -/
theorem ends_run (seen files : List Text) :
    (σ.run d s seen files).Ends (σ.find d s seen files) := by
  induction files generalizing seen with
  | nil => exact Reporting.ends_pure []
  | cons file files ih =>
    have hofExcept : ∀ {α : Type} (r : Except Fault α), (Reporting.ofExcept r).Ends r :=
      fun r lines => ⟨lines, rfl⟩
    rw [run, find]
    refine (hofExcept _).bind fun place => ?_
    cases place with
    | none => exact ih seen
    | some p =>
      dsimp only
      split
      · exact ih seen
      · have hrest (here : List UiUnit) : (do
            return here ++ (← σ.run d s (σ.root p :: seen) files) : Reporting _).Ends (do
            let rest ← σ.find d s (σ.root p :: seen) files
            .ok (here ++ rest)) := (ih _).bind fun rest => Reporting.ends_pure _
        have hstep := (hofExcept (σ.unit? p)).bind fun found =>
          (ends_unlessServed d s (σ.skipped p) found).bind hrest
        have heq : (σ.unit? p >>= fun found =>
            (unserved d s found).map Option.toList >>= fun here =>
            σ.find d s (σ.root p :: seen) files >>= fun rest => .ok (here ++ rest)) =
            σ.new? d s p >>= fun here =>
              σ.find d s (σ.root p :: seen) files >>= fun rest => .ok (here.toList ++ rest) := by
          rw [new?, bind_assoc]
          exact bind_congr fun found => bind_map_left ..
        exact heq ▸ hstep

/-! ## 3.  What is found -/

/-- The places of files, as far as they have any. -/
def places (files : List Text) : List π := files.filterMap fun file => (σ.place? file).toOption.join

/-- The new unit at a place, as far as there is one. -/
def newUnit (p : π) : Option UiUnit := (σ.new? d s p).toOption.join

theorem mem_places {files : List Text} {p : π} :
    p ∈ σ.places files ↔ ∃ file ∈ files, σ.place? file = .ok (some p) := by
  rw [places, List.mem_filterMap]
  refine exists_congr fun file => and_congr_right fun _ => ?_
  cases σ.place? file with
  | error f =>
    constructor
    · exact fun h => by cases h
    · exact fun h => by cases h
  | ok place =>
    rw [Except.ok.injEq]
    exact Iff.rfl

theorem places_append (xs ys : List Text) : σ.places (xs ++ ys) = σ.places xs ++ σ.places ys :=
  List.filterMap_append ..

/-- Places of files are told apart by their roots. -/
def Faithful : Prop :=
  ∀ f g p q, σ.place? f = .ok (some p) → σ.place? g = .ok (some q) → σ.root p = σ.root q → p = q

variable {σ d s}

/-- Places of files with new units are told apart by the roots of these. -/
def Rooted (σ : Search π) (d : Disk) (s : Settings) : Prop :=
  ∀ f g p q u v, σ.place? f = .ok (some p) → σ.place? g = .ok (some q) →
    σ.newUnit d s p = some u → σ.newUnit d s q = some v → u.root = v.root → p = q

theorem Rooted.eq_of_mem (hr : σ.Rooted d s) {xs ys : List Text} {p q : π} {u v : UiUnit}
    (hp : p ∈ σ.places xs) (hq : q ∈ σ.places ys) (hu : σ.newUnit d s p = some u)
    (hv : σ.newUnit d s q = some v) (h : u.root = v.root) : p = q := by
  obtain ⟨f, -, hf⟩ := σ.mem_places.1 hp
  obtain ⟨g, -, hg⟩ := σ.mem_places.1 hq
  exact hr f g p q u v hf hg hu hv h

theorem find_cons_of_none {seen files : List Text} {file : Text} (h : σ.place? file = .ok none) :
    σ.find d s seen (file :: files) = σ.find d s seen files := by
  rw [find, h]
  rfl

theorem find_cons_of_some {seen files : List Text} {file : Text} {p : π}
    (h : σ.place? file = .ok (some p)) : σ.find d s seen (file :: files) =
      if σ.root p ∈ seen then σ.find d s seen files
      else σ.new? d s p >>= fun here =>
        σ.find d s (σ.root p :: seen) files >>= fun rest => .ok (here.toList ++ rest) := by
  rw [find, h]
  rfl

variable [DecidableEq π]

/-- The places that count of a place and some others. -/
theorem filter_eraseDups_cons {seen : List Text} {p : π} {ps : List π} :
    ((p :: ps).eraseDups.filter fun q => σ.root q ∉ seen) =
      if σ.root p ∈ seen then ps.eraseDups.filter fun q => σ.root q ∉ seen
      else p :: ps.eraseDups.filter fun q => q ≠ p ∧ σ.root q ∉ seen := by
  rw [List.eraseDups_cons_eq]
  split
  · rename_i hp
    rw [List.filter_cons_of_neg (by simpa using hp), List.filter_filter]
    refine List.filter_congr fun q _ => ?_
    by_cases hq : q = p
    · simp [hq, hp]
    · simp [hq]
  · rename_i hp
    rw [List.filter_cons_of_pos (by simpa using hp), List.filter_filter]
    congr 1
    refine List.filter_congr fun q _ => ?_
    by_cases hq : q = p
    · simp [hq]
    · simp [hq]

/-- What is found among files, apart from roots that have been seen. -/
theorem find_seen_eq_ok (hσ : σ.Faithful) {seen files : List Text} {us : List UiUnit} :
    σ.find d s seen files = .ok us ↔ (∀ file ∈ files, ∃ place, σ.place? file = .ok place) ∧
      (∀ p ∈ σ.places files, σ.root p ∉ seen → ∃ new, σ.new? d s p = .ok new) ∧
      us = ((σ.places files).eraseDups.filter fun p => σ.root p ∉ seen).filterMap
        (σ.newUnit d s) := by
  induction files generalizing seen us with
  | nil =>
    rw [find, Except.ok.injEq]
    exact ⟨fun h => ⟨fun _ hf => absurd hf List.not_mem_nil, fun _ hp => absurd hp List.not_mem_nil,
      h.symm⟩, fun h => h.2.2.symm⟩
  | cons file files ih =>
    rw [List.forall_mem_cons]
    cases hplace : σ.place? file with
    | error f =>
      rw [find, hplace]
      constructor
      · exact fun h => by cases h
      · rintro ⟨⟨⟨place, hp⟩, -⟩, -⟩
        cases hp
    | ok place =>
      have hfirst : ∃ place', (.ok place : Except Fault (Option π)) = .ok place' := ⟨place, rfl⟩
      rw [and_iff_right hfirst]
      cases place with
      | none =>
        have hplaces : σ.places (file :: files) = σ.places files :=
          List.filterMap_cons_none (by rw [hplace]; rfl)
        rw [hplaces, find_cons_of_none hplace]
        exact ih
      | some p =>
        have hplaces : σ.places (file :: files) = p :: σ.places files :=
          List.filterMap_cons_some (by rw [hplace]; rfl)
        rw [hplaces, find_cons_of_some hplace, filter_eraseDups_cons, List.forall_mem_cons]
        by_cases hp : σ.root p ∈ seen
        · rw [if_pos hp, if_pos hp, and_iff_right (fun h => absurd hp h)]
          exact ih
        · -- the root of the place is seen from now on, and belongs to no other place
          have hroots : ∀ q ∈ σ.places files,
              (σ.root q ∉ σ.root p :: seen ↔ q ≠ p ∧ σ.root q ∉ seen) := by
            intro q hq
            obtain ⟨g, -, hg⟩ := (σ.mem_places).1 hq
            rw [List.mem_cons, not_or]
            refine and_congr_left fun _ => not_congr ⟨fun h => hσ g file q p hg hplace h, ?_⟩
            rintro rfl
            rfl
          have hfilter : ((σ.places files).eraseDups.filter fun q => q ≠ p ∧ σ.root q ∉ seen) =
              (σ.places files).eraseDups.filter fun q => σ.root q ∉ σ.root p :: seen :=
            List.filter_congr fun q hq => decide_eq_decide.2
              (hroots q (List.mem_eraseDups.1 hq)).symm
          rw [if_neg hp, if_neg hp, hfilter, Except.bind_eq_ok]
          constructor
          · rintro ⟨here, hhere, h⟩
            obtain ⟨rest, hrest, h⟩ := Except.bind_eq_ok.1 h
            obtain ⟨hfiles, hnew, rfl⟩ := ih.1 hrest
            refine ⟨hfiles, ⟨fun _ => ⟨here, hhere⟩, fun q hq hseen => ?_⟩, ?_⟩
            · by_cases hqp : q = p
              · exact ⟨here, hqp ▸ hhere⟩
              · exact hnew q hq ((hroots q hq).2 ⟨hqp, hseen⟩)
            · have hunit : σ.newUnit d s p = here := by rw [newUnit, hhere]; rfl
              rw [List.filterMap_cons, hunit, ← Except.ok.inj h]
              cases here with
              | none => rfl
              | some u => rfl
          · rintro ⟨hfiles, ⟨hhere, hnew⟩, rfl⟩
            obtain ⟨here, hhere⟩ := hhere hp
            refine ⟨here, hhere, Except.bind_eq_ok.2 ⟨_, ih.2 ⟨hfiles, fun q hq hseen =>
              hnew q hq ((hroots q hq).1 hseen).2, rfl⟩, ?_⟩⟩
            have hunit : σ.newUnit d s p = here := by rw [newUnit, hhere]; rfl
            rw [List.filterMap_cons, hunit]
            cases here with
            | none => rfl
            | some u => rfl

/-- **What is found among files**: if each file has a place or none, and there is a new unit or none
at each place, the new units at the places, each taken once, in the order in which the places first
occur. -/
theorem find_eq_ok (hσ : σ.Faithful) {files : List Text} {us : List UiUnit} :
    σ.find d s [] files = .ok us ↔ (∀ file ∈ files, ∃ place, σ.place? file = .ok place) ∧
      (∀ p ∈ σ.places files, ∃ new, σ.new? d s p = .ok new) ∧
      us = (σ.places files).eraseDups.filterMap (σ.newUnit d s) := by
  have hall : ((σ.places files).eraseDups.filter fun p => σ.root p ∉ []) =
      (σ.places files).eraseDups :=
    List.filter_eq_self.2 fun p _ => decide_eq_true List.not_mem_nil
  rw [find_seen_eq_ok hσ, hall]
  refine and_congr_right fun _ => and_congr_left fun _ => forall₂_congr fun p _ => ?_
  exact ⟨fun h => h List.not_mem_nil, fun h _ => h⟩

/-! ## 4.  More files, and another order -/

/-- **No root occurs twice.** -/
theorem nodup_of_find (hσ : σ.Faithful) (hr : σ.Rooted d s) {files : List Text} {us : List UiUnit}
    (h : σ.find d s [] files = .ok us) : (us.map UiUnit.root).Nodup := by
  obtain ⟨-, -, rfl⟩ := (find_eq_ok hσ).1 h
  rw [List.Nodup, List.pairwise_map, List.pairwise_filterMap]
  refine (List.nodup_eraseDups _).imp_of_mem fun hp hq hne u hu v hv hroot => hne ?_
  exact hr.eq_of_mem (List.mem_eraseDups.1 hp) (List.mem_eraseDups.1 hq) hu hv hroot

/-- **The same files in another order** have the same units in another order. -/
theorem find_perm (hσ : σ.Faithful) {xs ys : List Text} {us : List UiUnit} (h : xs.Perm ys)
    (hx : σ.find d s [] xs = .ok us) : ∃ vs, σ.find d s [] ys = .ok vs ∧ us.Perm vs := by
  obtain ⟨hfiles, hnew, rfl⟩ := (find_eq_ok hσ).1 hx
  have hplaces : (σ.places xs).Perm (σ.places ys) := h.filterMap _
  exact ⟨_, (find_eq_ok hσ).2 ⟨fun file hf => hfiles file (h.mem_iff.2 hf), fun p hp =>
    hnew p (hplaces.mem_iff.2 hp), rfl⟩, hplaces.eraseDups.filterMap _⟩

/-- The units at the places of some files and of others: those at the places of the first ones, and
those of the others with other roots. -/
theorem filterMap_eraseDups_append (hr : σ.Rooted d s) (xs ys : List Text) :
    (σ.places (xs ++ ys)).eraseDups.filterMap (σ.newUnit d s) =
      (σ.places xs).eraseDups.filterMap (σ.newUnit d s) ++
        ((σ.places ys).eraseDups.filterMap (σ.newUnit d s)).filter fun v =>
          v.root ∉ ((σ.places xs).eraseDups.filterMap (σ.newUnit d s)).map UiUnit.root := by
  rw [places_append, List.eraseDups_append, List.filterMap_append, List.removeAll,
    ← List.filter_eraseDups, List.filterMap_filter, List.filter_filterMap]
  congr 1
  refine List.filterMap_congr fun q hq => ?_
  cases hv : σ.newUnit d s q with
  | none => rw [ite_self, Option.filter_none]
  | some v =>
    have hiff : v.root ∈ ((σ.places xs).eraseDups.filterMap (σ.newUnit d s)).map UiUnit.root ↔
        q ∈ σ.places xs := by
      rw [List.mem_map]
      constructor
      · rintro ⟨u, hu, hroot⟩
        obtain ⟨p, hp, hu⟩ := List.mem_filterMap.1 hu
        have hp := List.mem_eraseDups.1 hp
        exact hr.eq_of_mem hp (List.mem_eraseDups.1 hq) hu hv hroot ▸ hp
      · exact fun hp => ⟨v, List.mem_filterMap.2 ⟨q, List.mem_eraseDups.2 hp, hv⟩, rfl⟩
    rw [Option.filter_some, decide_not, decide_eq_decide.2 hiff, List.elem_eq_mem]

/-- **Some files and others**: what is found among them is what is found among the first ones, and
what is found among the others with other roots. -/
theorem find_append (hσ : σ.Faithful) (hr : σ.Rooted d s) {xs ys : List Text} {ws : List UiUnit} :
    σ.find d s [] (xs ++ ys) = .ok ws ↔ ∃ us vs, σ.find d s [] xs = .ok us ∧
      σ.find d s [] ys = .ok vs ∧ ws = us ++ vs.filter fun v => v.root ∉ us.map UiUnit.root := by
  rw [find_eq_ok hσ, filterMap_eraseDups_append hr, places_append, List.forall_mem_append,
    List.forall_mem_append]
  constructor
  · rintro ⟨⟨hxs, hys⟩, ⟨hnewx, hnewy⟩, rfl⟩
    exact ⟨_, _, (find_eq_ok hσ).2 ⟨hxs, hnewx, rfl⟩, (find_eq_ok hσ).2 ⟨hys, hnewy, rfl⟩, rfl⟩
  · rintro ⟨us, vs, hx, hy, rfl⟩
    obtain ⟨hxs, hnewx, rfl⟩ := (find_eq_ok hσ).1 hx
    obtain ⟨hys, hnewy, rfl⟩ := (find_eq_ok hσ).1 hy
    exact ⟨⟨hxs, hys⟩, ⟨hnewx, hnewy⟩, rfl⟩

/-! ## 5.  Files that bring nothing new -/

omit [DecidableEq π]

theorem run_cons_of_none {seen files : List Text} {file : Text} (h : σ.place? file = .ok none) :
    σ.run d s seen (file :: files) = σ.run d s seen files := by
  rw [run, h]
  rfl

theorem run_cons_of_some {seen files : List Text} {file : Text} {p : π}
    (h : σ.place? file = .ok (some p)) : σ.run d s seen (file :: files) =
      if σ.root p ∈ seen then σ.run d s seen files
      else Reporting.ofExcept (σ.unit? p) >>= fun found =>
        unlessServed d s (σ.skipped p) found >>= fun here =>
          σ.run d s (σ.root p :: seen) files >>= fun rest => pure (here ++ rest) := by
  rw [run, h]
  rfl

/-- A file whose place has been seen, among roots or among the places of other files. -/
def IsSeen (σ : Search π) (seen xs : List Text) (file : Text) : Prop :=
  ∃ p, σ.place? file = .ok (some p) ∧ (σ.root p ∈ seen ∨ p ∈ σ.places xs)

/-- **Files whose places have been seen change nothing**: neither what is found, nor what is
reported, nor how the search fails. -/
theorem run_seen {seen xs extra ys : List Text}
    (h : ∀ file ∈ extra, σ.IsSeen seen xs file) :
    σ.run d s seen (xs ++ (extra ++ ys)) = σ.run d s seen (xs ++ ys) := by
  induction xs generalizing seen with
  | nil =>
    induction extra with
    | nil => rfl
    | cons file extra ih =>
      obtain ⟨p, hp, hseen⟩ := h file (List.mem_cons_self ..)
      have hroot : σ.root p ∈ seen := hseen.resolve_right List.not_mem_nil
      rw [List.nil_append, List.cons_append, run_cons_of_some hp, if_pos hroot]
      exact ih fun x hx => h x (List.mem_cons_of_mem _ hx)
  | cons x xs ih =>
    rw [List.cons_append, List.cons_append]
    cases hx : σ.place? x with
    | error f =>
      rw [run, run, hx]
      rfl
    | ok place =>
      cases place with
      | none =>
        have hplaces : σ.places (x :: xs) = σ.places xs :=
          List.filterMap_cons_none (by rw [hx]; rfl)
        rw [run_cons_of_none hx, run_cons_of_none hx]
        refine ih fun file hf => ?_
        obtain ⟨p, hp, hseen⟩ := h file hf
        exact ⟨p, hp, hplaces ▸ hseen⟩
      | some q =>
        have hplaces : σ.places (x :: xs) = q :: σ.places xs :=
          List.filterMap_cons_some (by rw [hx]; rfl)
        have hextra : ∀ seen', σ.root q ∈ seen' → seen ⊆ seen' →
            ∀ file ∈ extra, σ.IsSeen seen' xs file := by
          intro seen' hq hsub file hf
          obtain ⟨p, hp, hseen⟩ := h file hf
          rw [hplaces, List.mem_cons] at hseen
          rcases hseen with hseen | rfl | hseen
          · exact ⟨p, hp, .inl (hsub hseen)⟩
          · exact ⟨p, hp, .inl hq⟩
          · exact ⟨p, hp, .inr hseen⟩
        rw [run_cons_of_some hx, run_cons_of_some hx]
        split
        · rename_i hq
          exact ih (hextra seen hq fun _ hm => hm)
        · rw [ih (hextra (σ.root q :: seen) (List.mem_cons_self ..) (List.subset_cons_self ..))]

/-- Files without a place have no units. -/
theorem run_of_none {seen files : List Text} (h : ∀ file ∈ files, σ.place? file = .ok none) :
    σ.run d s seen files = pure [] := by
  induction files with
  | nil => rfl
  | cons file files ih =>
    rw [run_cons_of_none (h file (List.mem_cons_self ..)),
      ih fun x hx => h x (List.mem_cons_of_mem _ hx)]

/-- The new unit at a place, with what is reported of it. -/
def runAt (σ : Search π) (d : Disk) (s : Settings) (p : π) : Reporting (List UiUnit) := do
  unlessServed d s (σ.skipped p) (← Reporting.ofExcept (σ.unit? p))

theorem ends_runAt (p : π) : (σ.runAt d s p).Ends ((σ.new? d s p).map Option.toList) := by
  have hofExcept : (Reporting.ofExcept (σ.unit? p)).Ends (σ.unit? p) := fun lines => ⟨lines, rfl⟩
  have heq : (σ.unit? p >>= fun found => (unserved d s found).map Option.toList) =
      (σ.new? d s p).map Option.toList := by
    rw [new?]
    cases σ.unit? p with
    | error f => rfl
    | ok found => rfl
  exact heq ▸ hofExcept.bind (ends_unlessServed d s (σ.skipped p))

/-- **Files of one place** have the unit of that place, whatever their number. -/
theorem run_of_place {files : List Text} {p : π} (hne : files ≠ [])
    (h : ∀ file ∈ files, σ.place? file = .ok (some p)) :
    σ.run d s [] files = σ.runAt d s p := by
  cases files with
  | nil => exact absurd rfl hne
  | cons file files =>
    have hseen : ∀ x ∈ files, σ.IsSeen [σ.root p] [] x := fun x hx =>
      ⟨p, h x (List.mem_cons_of_mem _ hx), .inl (List.mem_singleton_self _)⟩
    have hrest : σ.run d s [σ.root p] files = pure [] := by
      have hrun : σ.run d s [σ.root p] ([] ++ (files ++ [])) = σ.run d s [σ.root p] ([] ++ []) :=
        run_seen hseen
      rwa [List.append_nil, List.nil_append] at hrun
    rw [run_cons_of_some (h file (List.mem_cons_self ..)), if_neg List.not_mem_nil, hrest, runAt]
    refine bind_congr fun found => ?_
    simp only [pure_bind, List.append_nil, bind_pure]

end Search

end UiHarness.Detection
