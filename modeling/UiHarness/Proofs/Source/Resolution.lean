import UiHarness.Proofs.Detection.Faults

/-!
# Where a module nearby is found

A module nearby can be a file of its own name or the index file of a directory of that name, with
one extension or another.  The extensions are tried in turn, and with each of them both places.  So
a file goes before the index files with its own extension and with later ones, and an index file
goes before the files with later extensions.  The obvious statement, that files go before index
files, fails for this reason (`not_filesFirst`).

* `Source.filePlace`, `Source.indexPlace`: the two places with an extension.
* `Except.findM?_pairs_eq_some`: a search through pairs.
* `Source.FoundInTurn`, `Source.found_in_turn`: what looking for a module nearby comes to.
* `Source.FilesFirst`, `Source.not_filesFirst`: files do not always go before index files.
-/

namespace UiHarness

namespace Except

variable {α β ε : Type} {p : β → Except ε Bool} {f g : α → β} {l : List α} {b : β}

/-! ## 1.  Searches through pairs -/

/-- **What a search through pairs finds**: one of the first pair that has anything, and the first of
the two if both are there. -/
theorem findM?_pairs_eq_some : (l.flatMap fun a => [f a, g a]).findM? p = .ok (some b) ↔
    ∃ front a back, l = front ++ a :: back ∧
      (∀ x ∈ front, p (f x) = .ok false ∧ p (g x) = .ok false) ∧
      (p (f a) = .ok true ∧ b = f a ∨
        p (f a) = .ok false ∧ p (g a) = .ok true ∧ b = g a) := by
  induction l with
  | nil =>
    refine ⟨fun h => (by cases h), ?_⟩
    rintro ⟨front, a, back, hl, -⟩
    exact absurd hl.symm (List.append_ne_nil_of_right_ne_nil _ (List.cons_ne_nil _ _))
  | cons x l ih =>
    rw [List.flatMap_cons, List.cons_append, List.cons_append, List.nil_append, List.findM?,
      bind_eq_ok]
    constructor
    · rintro ⟨first, hfirst, h⟩
      cases first with
      | true =>
        obtain rfl := Option.some.inj (Except.ok.inj h)
        exact ⟨[], x, l, rfl, fun _ h => absurd h List.not_mem_nil, .inl ⟨hfirst, rfl⟩⟩
      | false =>
        obtain ⟨second, hsecond, h⟩ := bind_eq_ok.1 h
        cases second with
        | true =>
          obtain rfl := Option.some.inj (Except.ok.inj h)
          exact ⟨[], x, l, rfl, fun _ h => absurd h List.not_mem_nil,
            .inr ⟨hfirst, hsecond, rfl⟩⟩
        | false =>
          obtain ⟨front, a, back, rfl, hfront, ha⟩ := ih.1 h
          exact ⟨x :: front, a, back, rfl,
            List.forall_mem_cons.2 ⟨⟨hfirst, hsecond⟩, hfront⟩, ha⟩
    · rintro ⟨front, a, back, hl, hfront, ha⟩
      cases front with
      | nil =>
        obtain ⟨rfl, rfl⟩ := List.cons.inj hl
        rcases ha with ⟨hfirst, rfl⟩ | ⟨hfirst, hsecond, rfl⟩
        · exact ⟨true, hfirst, rfl⟩
        · exact ⟨false, hfirst, bind_eq_ok.2 ⟨true, hsecond, rfl⟩⟩
      | cons y front =>
        obtain ⟨rfl, rfl⟩ := List.cons.inj hl
        obtain ⟨⟨hfirst, hsecond⟩, hfront⟩ := List.forall_mem_cons.1 hfront
        exact ⟨false, hfirst, bind_eq_ok.2 ⟨false, hsecond,
          ih.2 ⟨front, a, back, rfl, hfront, ha⟩⟩⟩

/-- A search finds nothing exactly if there is nothing. -/
theorem findM?_eq_none {l : List β} : l.findM? p = .ok none ↔ ∀ b ∈ l, p b = .ok false := by
  refine ⟨fun h b hb => of_findM?_none h hb, fun h => ?_⟩
  induction l with
  | nil => rfl
  | cons b l ih =>
    obtain ⟨hb, hl⟩ := List.forall_mem_cons.1 h
    rw [List.findM?, hb]
    exact ih hl

end Except

namespace Source

variable {d : Disk} {base : Path} {specifier e : Text}

/-! ## 2.  The places of a module -/

/-- The name of a module nearby: its specifier, without the mark of its own directory. -/
def moduleName (specifier : Text) : Text := (Text.after? "./" specifier).getD specifier

/-- The file of a module nearby with an extension. -/
def filePlace (base : Path) (specifier e : Text) : Path := base.child (moduleName specifier ++ e)

/-- The index file of a module nearby with an extension. -/
def indexPlace (base : Path) (specifier e : Text) : Path :=
  (base.child (moduleName specifier)).child ("index" ++ e)

theorem nearbyPlaces_eq (base : Path) (specifier : Text) : nearbyPlaces base specifier =
    extensions.flatMap fun e => [filePlace base specifier e, indexPlace base specifier e] := rfl

/-- The extensions that are tried before one. -/
def earlier (e : Text) : List Text := extensions.takeWhile (· ≠ e)

/-- With no extension that is tried before one, there is a file at a place. -/
def NoneBefore (d : Disk) (place : Text → Path) (e : Text) : Prop :=
  ∀ e' ∈ earlier e, d.isFile (place e') = .ok false

/-- The extension is the first one with which there is a file at a place. -/
structure FirstAt (d : Disk) (place : Text → Path) (e : Text) : Prop where
  mem : e ∈ extensions
  isFile : d.isFile (place e) = .ok true
  none : NoneBefore d place e

/-- What stands before an extension is tried before it. -/
theorem earlier_eq {front back : List Text} (h : extensions = front ++ e :: back) :
    earlier e = front := by
  have hnodup : (front ++ e :: back).Nodup := h ▸ (by decide : extensions.Nodup)
  have hne : ∀ x ∈ front, decide (x ≠ e) = true := fun x hx =>
    decide_eq_true ((List.nodup_append.1 hnodup).2.2 x hx e (List.mem_cons_self ..))
  rw [earlier, h, List.takeWhile_append_of_pos hne, List.takeWhile_cons_of_neg (by simp),
    List.append_nil]

/-! ## 3.  Which place is taken -/

/-- What looking for a module nearby comes to: the file with the first extension that there is one
with, unless there is an index file with an earlier one; the first index file, unless there is a
file with its extension or an earlier one; nothing if there is neither; and a fault only if one of
the places has too long a path. -/
structure FoundInTurn (d : Disk) (base : Path) (specifier : Text)
    (r : Except Fault (Option Path)) : Prop where
  found : ∀ path, r = .ok (some path) ↔
    (∃ e, FirstAt d (filePlace base specifier) e ∧ NoneBefore d (indexPlace base specifier) e ∧
      path = filePlace base specifier e) ∨
    ∃ e, FirstAt d (indexPlace base specifier) e ∧ NoneBefore d (filePlace base specifier) e ∧
      d.isFile (filePlace base specifier e) = .ok false ∧ path = indexPlace base specifier e
  nothing : r = .ok none ↔ ∀ e ∈ extensions, d.isFile (filePlace base specifier e) = .ok false ∧
    d.isFile (indexPlace base specifier e) = .ok false
  tooLong : ∀ f, r = .error f → d.TooLongAmong (· ∈ nearbyPlaces base specifier) f

/-- **A module nearby is found by its extension first**, and by the kind of its place second. -/
theorem found_in_turn (d : Disk) (base : Path) (specifier : Text) :
    FoundInTurn d base specifier (resolve? d base specifier) := by
  rw [resolve?_eq]
  refine ⟨fun path => ?_, ?_, fun f h => Except.failsOnly_findM?
    (fun p hp => Disk.among_isFile hp) f h⟩
  · rw [nearbyPlaces_eq, Except.findM?_pairs_eq_some]
    constructor
    · rintro ⟨front, e, back, hall, hfront, hplace⟩
      have he : e ∈ extensions := hall ▸ List.mem_append_right _ (List.mem_cons_self ..)
      have hbefore : earlier e = front := earlier_eq hall
      have hfile : NoneBefore d (filePlace base specifier) e := fun e' he' =>
        (hfront e' (hbefore ▸ he')).1
      have hindex : NoneBefore d (indexPlace base specifier) e := fun e' he' =>
        (hfront e' (hbefore ▸ he')).2
      rcases hplace with ⟨his, rfl⟩ | ⟨hno, his, rfl⟩
      · exact .inl ⟨e, ⟨he, his, hfile⟩, hindex, rfl⟩
      · exact .inr ⟨e, ⟨he, his, hindex⟩, hfile, hno, rfl⟩
    · rintro (⟨e, hfirst, hindex, rfl⟩ | ⟨e, hfirst, hfile, hno, rfl⟩)
      · obtain ⟨front, back, hall⟩ := List.append_of_mem hfirst.mem
        obtain rfl := earlier_eq hall
        exact ⟨_, e, back, hall, fun e' he' => ⟨hfirst.none e' he', hindex e' he'⟩,
          .inl ⟨hfirst.isFile, rfl⟩⟩
      · obtain ⟨front, back, hall⟩ := List.append_of_mem hfirst.mem
        obtain rfl := earlier_eq hall
        exact ⟨_, e, back, hall, fun e' he' => ⟨hfile e' he', hfirst.none e' he'⟩,
          .inr ⟨hno, hfirst.isFile, rfl⟩⟩
  · rw [nearbyPlaces_eq, Except.findM?_eq_none, List.forall_mem_flatMap]
    refine forall₂_congr fun e _ => ?_
    rw [List.forall_mem_cons, List.forall_mem_cons,
      and_iff_left fun _ h => absurd h List.not_mem_nil]

/-! ## 4.  Files and index files -/

/-- Files go before index files: the file with the first extension that there is one with, and the
first index file only if there is no file. -/
structure FilesFirst (d : Disk) (base : Path) (specifier : Text)
    (r : Except Fault (Option Path)) : Prop where
  file : ∀ e, FirstAt d (filePlace base specifier) e → r = .ok (some (filePlace base specifier e))
  index : (∀ e ∈ extensions, d.isFile (filePlace base specifier e) = .ok false) →
    ∀ e, FirstAt d (indexPlace base specifier) e → r = .ok (some (indexPlace base specifier e))
  nothing : (∀ e ∈ extensions, d.isFile (filePlace base specifier e) = .ok false ∧
    d.isFile (indexPlace base specifier e) = .ok false) → r = .ok none

/-- A directory with a file, and a directory of its name with an index file of an earlier
extension. -/
def rowsDisk : Disk :=
  { entries := Table.ofList [("/w", .directory), ("/w/Rows.tsx", .file (Text.encode "x")),
      ("/w/Rows", .directory), ("/w/Rows/index.ts", .file (Text.encode "y"))] }

/-- **Files do not always go before index files.** -/
theorem not_filesFirst :
    ¬ FilesFirst rowsDisk (.ofText "w") "./Rows" (resolve? rowsDisk (.ofText "w") "./Rows") := by
  have hfirst : FirstAt rowsDisk (filePlace (.ofText "w") "./Rows") ".tsx" := by
    refine ⟨by decide, rfl, fun e he => ?_⟩
    obtain rfl := List.mem_singleton.1 (show e ∈ [(".ts".toList : Text)] from he)
    rfl
  have hindex : resolve? rowsDisk (.ofText "w") "./Rows" =
      .ok (some (indexPlace (.ofText "w") "./Rows" ".ts")) := rfl
  intro h
  have heq := Option.some.inj (Except.ok.inj (hindex.symm.trans (h.file _ hfirst)))
  exact absurd heq (by decide)

end Source

end UiHarness
