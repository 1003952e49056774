import Mathlib.Data.List.Forall2
import UiHarness.Proofs.Generation.Analysis
import UiHarness.Proofs.Generation.Faults
import UiHarness.Proofs.Json.RoundTrip
import UiHarness.Proofs.Text.LineEnds
import UiHarness.UnitsFile

/-!
# What reading a units file comes to

A units file is written by a program but may be changed by hand, so anything can stand in it.
Nearly all that is wrong with it is told of the file: that its text is no JSON, that its value is
neither a table nor a list, and that one of its entries does not make a unit.  Four things slip
through and end the reading with a fault of their own.  The bytes may be no text at all; the JSON
may be sound but too large for its reader; the place of the widgets or the pages may be taken by
something without members; and an entry may be no table, so that it cannot even be asked for a name.

The last of these depends on the order.  Entries are read one after the other, and the first that
does not make a unit decides what is said, so an entry that is no table slips through only if the
ones in front of it are sound.

* `UnitEntry.ofValue_eq_ok`: what an entry brings.
* `UnitEntry.told_of_table`: what is wrong with a table is told of the file.
* `UnitsFile.Lists`, `UnitsFile.Unlisted`: the entries that a value lists.
* `UnitsFile.Stray`: what slips through.
* `UnitsFile.Outcome`, `UnitsFile.read_outcome`: what reading a file comes to.
-/

namespace UiHarness

namespace Except

variable {α β ε : Type} {f : α → Except ε β} {l : List α}

/-! ## 1.  Going through a list -/

/-- All members give something exactly if each does. -/
theorem mapM_eq_ok_iff {bs : List β} :
    l.mapM f = .ok bs ↔ List.Forall₂ (fun a b => f a = .ok b) l bs := by
  induction l generalizing bs with
  | nil =>
    rw [List.forall₂_nil_left_iff]
    exact ⟨fun h => (Except.ok.inj h).symm, fun h => h ▸ rfl⟩
  | cons a l ih =>
    rw [List.mapM_cons, bind_eq_ok, List.forall₂_cons_left_iff]
    constructor
    · rintro ⟨b, hb, h⟩
      obtain ⟨bs', hbs, h⟩ := bind_eq_ok.1 h
      exact ⟨b, bs', hb, ih.1 hbs, (Except.ok.inj h).symm⟩
    · rintro ⟨b, bs', hb, hbs, rfl⟩
      exact ⟨b, hb, bind_eq_ok.2 ⟨bs', ih.2 hbs, rfl⟩⟩

/-- Going through a list fails exactly as its first member does that fails. -/
theorem mapM_eq_error_iff {e : ε} : l.mapM f = .error e ↔ ∃ front a back,
    l = front ++ a :: back ∧ (∀ x ∈ front, ∃ b, f x = .ok b) ∧ f a = .error e := by
  induction l with
  | nil =>
    refine ⟨fun h => (by cases h), ?_⟩
    rintro ⟨front, a, back, h, -⟩
    exact absurd h.symm (List.append_ne_nil_of_right_ne_nil _ (List.cons_ne_nil _ _))
  | cons a l ih =>
    rw [List.mapM_cons]
    cases ha : f a with
    | error e' =>
      constructor
      · intro h
        exact ⟨[], a, l, rfl, fun x hx => absurd hx List.not_mem_nil, ha.trans (by cases h; rfl)⟩
      · rintro ⟨front, a', back, h, hfront, herror⟩
        cases front with
        | nil =>
          obtain ⟨rfl, rfl⟩ := List.cons.inj h
          exact congrArg Except.error (Except.error.inj (ha.symm.trans herror))
        | cons x front =>
          obtain ⟨b, hb⟩ := hfront x (List.mem_cons_self ..)
          rw [← (List.cons.inj h).1, ha] at hb
          cases hb
    | ok b =>
      have hrest : (Except.ok b >>= fun b => l.mapM f >>= fun bs => .ok (b :: bs)) =
          (.error e : Except ε (List β)) ↔ l.mapM f = .error e := by
        cases l.mapM f with
        | error e' => exact Iff.rfl
        | ok bs => exact ⟨fun h => (by cases h), fun h => (by cases h)⟩
      refine hrest.trans (ih.trans ?_)
      constructor
      · rintro ⟨front, a', back, rfl, hfront, herror⟩
        exact ⟨a :: front, a', back, rfl, List.forall_mem_cons.2 ⟨⟨b, ha⟩, hfront⟩, herror⟩
      · rintro ⟨front, a', back, h, hfront, herror⟩
        cases front with
        | nil =>
          rw [← (List.cons.inj h).1, ha] at herror
          cases herror
        | cons x front =>
          exact ⟨front, a', back, (List.cons.inj h).2,
            fun y hy => hfront y (List.mem_cons_of_mem _ hy), herror⟩

end Except

open UiHarness.Except (FailsOnly failsOnly_ok failsOnly_error failsOnly_mapM)

/-! ## 2.  Entries -/

/-- A fault that is told of the file that an entry stands in. -/
def Fault.IsTold (f : Fault) : Prop :=
  ∀ path, UnitsFile.entryFault path f =
    .settings ("Invalid unit entry in " ++ path.text ++ ": " ++ f.message)

namespace Value

theorem told_members (v : Value) : FailsOnly Fault.IsTold v.members := by
  rcases v.members_cases with ⟨-, vs, h⟩ | ⟨-, h⟩
  · rw [h]
    exact failsOnly_ok _
  · rw [h]
    exact failsOnly_error fun _ => rfl

theorem told_pair (i : Nat) (v : Value) : FailsOnly Fault.IsTold (pair i v) := by
  unfold pair
  split
  · exact failsOnly_error fun _ => rfl
  · exact failsOnly_ok _
  · exact failsOnly_error fun _ => rfl

theorem told_pairsFrom (i : Nat) (vs : List Value) : FailsOnly Fault.IsTold (pairsFrom i vs) := by
  induction vs generalizing i with
  | nil => exact failsOnly_ok _
  | cons v vs ih =>
    refine (told_pair i v).bind fun p _ => ?_
    obtain ⟨key, value⟩ := p
    dsimp only
    split
    · exact failsOnly_error fun _ => rfl
    · exact failsOnly_error fun _ => rfl
    · exact (ih (i + 1)).bind fun _ _ => failsOnly_ok _

theorem told_entriesIfAny (v : Value) : FailsOnly Fault.IsTold v.entriesIfAny := by
  unfold entriesIfAny entries
  split
  · split
    · exact failsOnly_ok _
    · exact (told_pairsFrom 0 _).bind fun _ _ => failsOnly_ok _
    · exact (told_pairsFrom 0 _).bind fun _ _ => failsOnly_ok _
    · exact failsOnly_error fun _ => rfl
  · exact failsOnly_ok _

theorem told_joined (separator : Text) (vs : List Value) :
    FailsOnly Fault.IsTold (joined separator vs) := by
  refine FailsOnly.bind (failsOnly_mapM (fun p => ?_) _) fun ts _ => failsOnly_ok _
  obtain ⟨v, i⟩ := p
  cases v with
  | text t => exact failsOnly_ok _
  | _ => exact failsOnly_error fun _ => rfl

end Value

theorem Tab.told_ofValue (v : Value) : FailsOnly Fault.IsTold (Tab.ofValue v) := by
  unfold Tab.ofValue
  split
  · split
    · exact failsOnly_error fun _ => rfl
    · exact failsOnly_error fun _ => rfl
    · exact failsOnly_ok _
  · exact failsOnly_error fun _ => rfl

namespace UnitEntry

variable {v : Value} {e : UnitEntry}

/-- The name that an entry gives. -/
def nameOf (v : Value) : Except Fault Value :=
  match v.get? "name" with
  | some name => .ok name
  | none => .error (.noKey "name")

/-- The tabs that an entry gives. -/
def tabsOf (v : Value) : Except Fault (List Tab) :=
  let tabs := (v.get? "tabs").getD .null
  if tabs.isTrue then do (← tabs.members).mapM Tab.ofValue else .ok []

/-- The entry of what was read from a table, if every source has a path. -/
def assembled (v name : Value) (sources paths : List (Value × Value)) (tabs : List Tab) :
    Except Fault UnitEntry :=
  if located : ∀ e ∈ sources, (Value.valueOf? e.1 paths).isSome = true then
    .ok {
      kind := (v.get? "type").getD (.text "widget")
      name
      category := firstTrue v "entity" "entityType"
      root := (v.get? "path").getD (.text [])
      declaredId := (v.get? "id").getD .null
      displayName := (v.get? "displayName").getD .null
      route := (v.get? "route").getD .null
      sources, paths, tabs, located }
  else .error (unlocatedFault name (unlocated sources paths))

/-- A table is read part by part. -/
theorem ofValue_table {fields : List (Text × Value)} (hv : v = .table fields) :
    ofValue v = nameOf v >>= fun name =>
      ((v.get? "sources").getD .null).entriesIfAny >>= fun sources =>
        ((v.get? "sourcePaths").getD .null).entriesIfAny >>= fun paths =>
          tabsOf v >>= fun tabs => assembled v name sources paths tabs := by
  subst hv
  unfold ofValue nameOf tabsOf assembled
  dsimp only
  cases (Value.table fields).get? "name" with
  | none => rfl
  | some name =>
    cases ((Value.table fields).get? "sources").getD .null |>.entriesIfAny with
    | error f => rfl
    | ok sources =>
      cases ((Value.table fields).get? "sourcePaths").getD .null |>.entriesIfAny with
      | error f => rfl
      | ok paths =>
        by_cases htabs : (((Value.table fields).get? "tabs").getD .null).isTrue = true
        · simp only [htabs, if_true]
          cases (((Value.table fields).get? "tabs").getD .null).members with
          | error f => rfl
          | ok vs => rfl
        · simp only [htabs]
          rfl

/-- What is no table cannot be asked for anything. -/
theorem ofValue_of_not_table (hv : ¬ v.IsTable) :
    ofValue v = .error (v.lacks "get") := by
  cases v with
  | table fields => exact absurd ⟨fields, rfl⟩ hv
  | _ => rfl

/-- What a value brings that an entry is read from: its facts as they stand under their keys, its
sources and their paths as tables, and its tabs. -/
structure Brings (v : Value) (e : UnitEntry) : Prop where
  table : v.IsTable
  kind : e.kind = (v.get? "type").getD (.text "widget")
  name : v.get? "name" = some e.name
  category : e.category = firstTrue v "entity" "entityType"
  root : e.root = (v.get? "path").getD (.text [])
  declaredId : e.declaredId = (v.get? "id").getD .null
  displayName : e.displayName = (v.get? "displayName").getD .null
  sources : ((v.get? "sources").getD .null).entriesIfAny = .ok e.sources
  paths : ((v.get? "sourcePaths").getD .null).entriesIfAny = .ok e.paths
  route : e.route = (v.get? "route").getD .null
  tabs : tabsOf v = .ok e.tabs
  located : ∀ source ∈ e.sources, ∃ path ∈ e.paths, path.1.isSameKey source.1 = true

/-- A key that has a value stands among the pairs. -/
theorem exists_of_isSome_valueOf? {key : Value} {es : List (Value × Value)}
    (h : (Value.valueOf? key es).isSome = true) : ∃ e ∈ es, e.1.isSameKey key = true := by
  rw [Value.valueOf?, Option.isSome_map] at h
  obtain ⟨e, he⟩ := Option.isSome_iff_exists.1 h
  have hkey := List.find?_some (p := fun e : Value × Value => e.1.isSameKey key) he
  exact ⟨e, List.mem_of_find?_eq_some he, hkey⟩

/-- **What an entry brings**: an entry is read from a value exactly if the value brings it. -/
theorem ofValue_eq_ok : ofValue v = .ok e ↔ Brings v e := by
  constructor
  · intro h
    have htable : v.IsTable := by
      by_contra hv
      rw [ofValue_of_not_table hv] at h
      cases h
    obtain ⟨fields, hv⟩ := htable
    rw [ofValue_table hv] at h
    obtain ⟨name, hname, h⟩ := Except.bind_eq_ok.1 h
    obtain ⟨sources, hsources, h⟩ := Except.bind_eq_ok.1 h
    obtain ⟨paths, hpaths, h⟩ := Except.bind_eq_ok.1 h
    obtain ⟨tabs, htabs, h⟩ := Except.bind_eq_ok.1 h
    have hget : v.get? "name" = some name := by
      rw [nameOf] at hname
      split at hname
      · rename_i found hfound
        rw [hfound, Except.ok.inj hname]
      · cases hname
    rw [assembled] at h
    split at h
    · rename_i hlocated
      obtain rfl := Except.ok.inj h
      exact ⟨⟨fields, hv⟩, rfl, hget, rfl, rfl, rfl, rfl, hsources, hpaths, rfl, htabs,
        fun s hs => exists_of_isSome_valueOf? (hlocated s hs)⟩
    · cases h
  · intro h
    obtain ⟨fields, hv⟩ := h.table
    have hname : nameOf v = .ok e.name := by rw [nameOf, h.name]
    rw [ofValue_table hv]
    refine Except.bind_eq_ok.2 ⟨_, hname, Except.bind_eq_ok.2 ⟨_, h.sources, ?_⟩⟩
    refine Except.bind_eq_ok.2 ⟨_, h.paths, Except.bind_eq_ok.2 ⟨_, h.tabs, ?_⟩⟩
    rw [assembled, dif_pos e.located]
    obtain ⟨_, _, _, _, _, _, _, _, _, _, _⟩ := e
    obtain ⟨-, rfl, -, rfl, rfl, rfl, rfl, -, -, rfl, -, -⟩ := h
    rfl

/-- What is wrong with the sources that have no path is told of the file. -/
theorem told_unlocatedFault (name : Value) (keys : List Value) :
    (unlocatedFault name keys).IsTold := by
  unfold unlocatedFault
  split
  · exact fun _ => rfl
  · rename_i f hf
    exact Value.told_joined _ _ f hf

/-- **What is wrong with a table is told of the file.** -/
theorem told_of_table {fields : List (Text × Value)} (hv : v = .table fields) :
    FailsOnly Fault.IsTold (ofValue v) := by
  rw [ofValue_table hv]
  refine FailsOnly.bind ?_ fun name _ => ?_
  · unfold nameOf
    split
    · exact failsOnly_ok _
    · exact failsOnly_error fun _ => rfl
  refine (Value.told_entriesIfAny _).bind fun sources _ => ?_
  refine (Value.told_entriesIfAny _).bind fun paths _ => ?_
  refine FailsOnly.bind ?_ fun tabs _ => ?_
  · unfold tabsOf
    dsimp only
    split
    · exact (Value.told_members _).bind fun vs _ => failsOnly_mapM Tab.told_ofValue vs
    · exact failsOnly_ok _
  · unfold assembled
    split
    · exact failsOnly_ok _
    · exact failsOnly_error (told_unlocatedFault _ _)

end UnitEntry

namespace UnitsFile

/-! ## 3.  Lists of entries -/

/-- The members of the part of a file that stands under a key; a part that is missing has none. -/
inductive Part (v : Value) (key : Text) : List Value → Prop
  | missing : v.get? key = none → Part v key []
  | there {part : Value} {members : List Value} :
    v.get? key = some part → part.members = .ok members → Part v key members

/-- The entries that a value lists: those of a list, or the widgets and the pages of a table. -/
inductive Lists : Value → List Value → Prop
  | bare (entries : List Value) : Lists (.list entries) entries
  | parts {fields : List (Text × Value)} {widgets pages : List Value} :
    Part (.table fields) "widgets" widgets → Part (.table fields) "pages" pages →
      Lists (.table fields) (widgets ++ pages)

/-- What stands in the place of the widgets, or else of the pages, has no members. -/
inductive Unlisted : Value → Value → Prop
  | widgets {fields : List (Text × Value)} {part : Value} :
    (Value.table fields).get? "widgets" = some part → ¬ part.HasMembers →
      Unlisted (.table fields) part
  | pages {fields : List (Text × Value)} {widgets : List Value} {part : Value} :
    Part (.table fields) "widgets" widgets → (Value.table fields).get? "pages" = some part →
      ¬ part.HasMembers → Unlisted (.table fields) part

variable {v part : Value} {key : Text} {vs : List Value} {path : Path}

/-- A fault that is told of a file and names it. -/
def TellsOf (path : Path) (f : Fault) : Prop := ∃ m, f = .settings m ∧ path.text <:+: m

theorem Part.members_eq (h : Part v key vs) :
    ((v.get? key).getD (.list [])).members = .ok vs := by
  cases h with
  | missing hnone => rw [hnone]; rfl
  | there hsome hmembers => rw [hsome]; exact hmembers

theorem members_of_not_hasMembers (hpart : v.get? key = some part) (h : ¬ part.HasMembers) :
    ((v.get? key).getD (.list [])).members = .error part.notIterable := by
  rw [hpart]
  exact (part.members_cases.resolve_left fun hyes => h hyes.1).2

/-- A part of a file has members, or what stands in its place has none. -/
theorem exists_part (v : Value) (key : Text) :
    (∃ vs, Part v key vs) ∨ ∃ part, v.get? key = some part ∧ ¬ part.HasMembers := by
  cases hpart : v.get? key with
  | none => exact .inl ⟨[], .missing hpart⟩
  | some part =>
    rcases part.members_cases with ⟨-, vs, hvs⟩ | ⟨hno, -⟩
    · exact .inl ⟨vs, .there hpart hvs⟩
    · exact .inr ⟨part, rfl, hno⟩

theorem entriesOf_of_lists (h : Lists v vs) : entriesOf path v = .ok vs := by
  cases h with
  | bare => rfl
  | parts hwidgets hpages =>
    exact Except.bind_eq_ok.2 ⟨_, hwidgets.members_eq,
      Except.bind_eq_ok.2 ⟨_, hpages.members_eq, rfl⟩⟩

theorem entriesOf_of_unlisted (h : Unlisted v part) :
    entriesOf path v = .error part.notIterable := by
  cases h with
  | widgets hpart hno =>
    rw [entriesOf, members_of_not_hasMembers hpart hno]
    rfl
  | pages hwidgets hpart hno =>
    rw [entriesOf, hwidgets.members_eq, members_of_not_hasMembers hpart hno]
    rfl

/-- A value lists entries, or has a part without members, or is neither table nor list, which is
told of the file. -/
theorem entriesOf_cases (path : Path) (v : Value) :
    (∃ vs, Lists v vs) ∨ (∃ part, Unlisted v part) ∨
      ∃ f, entriesOf path v = .error f ∧ TellsOf path f := by
  cases v with
  | list vs => exact .inl ⟨vs, .bare vs⟩
  | table fields =>
    rcases exists_part (.table fields) "widgets" with ⟨widgets, hwidgets⟩ | ⟨part, hpart, hno⟩
    · rcases exists_part (.table fields) "pages" with ⟨pages, hpages⟩ | ⟨part, hpart, hno⟩
      · exact .inl ⟨_, .parts hwidgets hpages⟩
      · exact .inr (.inl ⟨part, .pages hwidgets hpart hno⟩)
    · exact .inr (.inl ⟨part, .widgets hpart hno⟩)
  | _ => exact .inr (.inr ⟨_, rfl, _, rfl, (List.suffix_append _ _).isInfix⟩)

/-! ## 4.  Units of entries -/

/-- An entry that is no table and stands behind sound entries only. -/
structure FirstBare (vs : List Value) (v : Value) : Prop where
  bare : ¬ v.IsTable
  first : ∃ front back, vs = front ++ v :: back ∧ ∀ x ∈ front, ∃ e, UnitEntry.Brings x e

theorem unitsOf_of_brings {es : List UnitEntry} (h : List.Forall₂ UnitEntry.Brings vs es) :
    unitsOf path vs = .ok es := by
  have hmap : vs.mapM UnitEntry.ofValue = .ok es :=
    Except.mapM_eq_ok_iff.2 (h.imp fun _ _ => UnitEntry.ofValue_eq_ok.2)
  rw [unitsOf, hmap]

theorem unitsOf_of_firstBare (h : FirstBare vs v) : unitsOf path vs = .error (v.lacks "get") := by
  obtain ⟨front, back, hvs, hfront⟩ := h.first
  have hmap : vs.mapM UnitEntry.ofValue = .error (v.lacks "get") :=
    Except.mapM_eq_error_iff.2 ⟨front, v, back, hvs,
      fun x hx => (hfront x hx).imp fun _ => UnitEntry.ofValue_eq_ok.2,
      UnitEntry.ofValue_of_not_table h.bare⟩
  rw [unitsOf, hmap]
  rfl

/-- Entries bring units, or the first that does not is no table, or it is told of the file. -/
theorem unitsOf_cases (path : Path) (vs : List Value) :
    (∃ es, List.Forall₂ UnitEntry.Brings vs es) ∨ (∃ v, FirstBare vs v) ∨
      ∃ f, unitsOf path vs = .error f ∧ TellsOf path f := by
  cases hmap : vs.mapM UnitEntry.ofValue with
  | ok es =>
    exact .inl ⟨es, (Except.mapM_eq_ok_iff.1 hmap).imp fun _ _ => UnitEntry.ofValue_eq_ok.1⟩
  | error f =>
    obtain ⟨front, v, back, hvs, hfront, hv⟩ := Except.mapM_eq_error_iff.1 hmap
    by_cases htable : v.IsTable
    · obtain ⟨fields, hfields⟩ := htable
      have htold := UnitEntry.told_of_table hfields f hv path
      refine .inr (.inr ⟨entryFault path f, by rw [unitsOf, hmap], _, htold, ?_⟩)
      exact ⟨"Invalid unit entry in ", ": " ++ f.message, (List.append_assoc _ _ _).symm⟩
    · exact .inr (.inl ⟨v, htable, front, back, hvs,
        fun x hx => (hfront x hx).imp fun _ => UnitEntry.ofValue_eq_ok.1⟩)

/-! ## 5.  Files -/

/-- The bytes of a file are the text of a JSON value. -/
def HoldsJson (bytes : ByteArray) (v : Value) : Prop :=
  ∃ t, Text.ofFile bytes = .ok t ∧ Json.parse t = .ok v

/-- The bytes of a file list entries. -/
def ListsEntries (bytes : ByteArray) (vs : List Value) : Prop :=
  ∃ v, HoldsJson bytes v ∧ Lists v vs

/-- What slips through: bytes that are no text, JSON that is too large for its reader, a part
without members, and an entry that is no table behind sound ones. -/
inductive Stray (bytes : ByteArray) : Fault → Prop
  | undecodable {u : Text.Undecodable} : Text.ofFile bytes = .error u → Stray bytes (.undecodable u)
  | tooDeep {t : Text} : Text.ofFile bytes = .ok t → Json.parse t = .error .tooDeep →
    Stray bytes (.json t .tooDeep)
  | longInteger {t : Text} {n : Nat} : Text.ofFile bytes = .ok t →
    Json.parse t = .error (.longInteger n) → Stray bytes (.json t (.longInteger n))
  | unlisted {v part : Value} : HoldsJson bytes v → Unlisted v part → Stray bytes part.notIterable
  | bareEntry {vs : List Value} {v : Value} : ListsEntries bytes vs → FirstBare vs v →
    Stray bytes (v.lacks "get")

/-- What reading the bytes of a file comes to: units, something that is told of the file, which is
named, or what slips through.  There are units exactly if the file lists entries each of which
brings one, and then these are the units; each source of a unit has a path. -/
structure Outcome (path : Path) (bytes : ByteArray) (r : Except Fault (List UnitEntry)) : Prop where
  cases : (∃ es, r = .ok es) ∨ (∃ f, r = .error f ∧ TellsOf path f) ∨
    ∃ f, r = .error f ∧ Stray bytes f
  units_iff : ∀ es, r = .ok es ↔
    ∃ vs, ListsEntries bytes vs ∧ List.Forall₂ UnitEntry.Brings vs es
  stray_iff : ∀ f, (r = .error f ∧ ¬ ∃ m, f = .settings m) ↔ Stray bytes f
  located : ∀ es, r = .ok es → ∀ e ∈ es, ∀ source ∈ e.sources,
    ∃ path ∈ e.paths, path.1.isSameKey source.1 = true

variable {d : Disk} {bytes : ByteArray}

theorem read_of_text {t : Text} (h : d.find path = .ok (.file bytes))
    (ht : Text.ofFile bytes = .ok t) : read d path = parse path t := by
  have hcontains : d.contains path = .ok true := Disk.contains_eq_true.2 ⟨_, h⟩
  have htext : d.readText path = .ok t := by
    rw [Disk.readText, Disk.readBytes, h]
    dsimp only [bind, Except.bind]
    rw [ht]
  rw [read, hcontains, htext]
  rfl

theorem read_of_undecodable {u : Text.Undecodable} (h : d.find path = .ok (.file bytes))
    (hu : Text.ofFile bytes = .error u) : read d path = .error (.undecodable u) := by
  have hcontains : d.contains path = .ok true := Disk.contains_eq_true.2 ⟨_, h⟩
  have htext : d.readText path = .error (.undecodable u) := by
    rw [Disk.readText, Disk.readBytes, h]
    dsimp only [bind, Except.bind]
    rw [hu]
  rw [read, hcontains, htext]
  rfl

theorem read_of_holdsJson {v : Value} (h : d.find path = .ok (.file bytes))
    (hv : HoldsJson bytes v) : read d path = entriesOf path v >>= unitsOf path := by
  obtain ⟨t, ht, hparse⟩ := hv
  rw [read_of_text h ht, parse, hparse]

theorem read_of_listsEntries (h : d.find path = .ok (.file bytes)) (hvs : ListsEntries bytes vs) :
    read d path = unitsOf path vs := by
  obtain ⟨v, hv, hlists⟩ := hvs
  rw [read_of_holdsJson h hv, entriesOf_of_lists hlists]
  rfl

/-- What slips through is the fault that reading ends with. -/
theorem read_of_stray {f : Fault} (h : d.find path = .ok (.file bytes)) (hf : Stray bytes f) :
    read d path = .error f := by
  cases hf with
  | undecodable hu => exact read_of_undecodable h hu
  | tooDeep ht hparse => rw [read_of_text h ht, parse, hparse]
  | longInteger ht hparse => rw [read_of_text h ht, parse, hparse]
  | unlisted hv hpart =>
    rw [read_of_holdsJson h hv, entriesOf_of_unlisted hpart]
    rfl
  | bareEntry hvs hbare => rw [read_of_listsEntries h hvs, unitsOf_of_firstBare hbare]

/-- Reading comes to units, or to something that is told of the file, or to what slips through. -/
theorem read_cases (h : d.find path = .ok (.file bytes)) :
    (∃ vs es, ListsEntries bytes vs ∧ List.Forall₂ UnitEntry.Brings vs es) ∨
      (∃ f, read d path = .error f ∧ TellsOf path f) ∨ ∃ f, Stray bytes f := by
  cases ht : Text.ofFile bytes with
  | error u => exact .inr (.inr ⟨_, .undecodable ht⟩)
  | ok t =>
    cases hparse : Json.parse t with
    | error failure =>
      cases failure with
      | defect defect rest =>
        let told : Text := (Json.Failure.defect defect rest).message t
        have hread : read d path =
            .error (.settings ("Units file is not valid JSON: " ++ path.text ++ ": " ++ told)) := by
          rw [read_of_text h ht, parse, hparse]
        refine .inr (.inl ⟨_, hread, _, rfl, ?_⟩)
        exact ⟨"Units file is not valid JSON: ", ": " ++ told, (List.append_assoc _ _ _).symm⟩
      | longInteger n => exact .inr (.inr ⟨_, .longInteger ht hparse⟩)
      | tooDeep => exact .inr (.inr ⟨_, .tooDeep ht hparse⟩)
    | ok v =>
      have hv : HoldsJson bytes v := ⟨t, ht, hparse⟩
      rcases entriesOf_cases path v with ⟨vs, hlists⟩ | ⟨part, hpart⟩ | ⟨f, hf, htells⟩
      · have hvs : ListsEntries bytes vs := ⟨v, hv, hlists⟩
        rcases unitsOf_cases path vs with ⟨es, hes⟩ | ⟨bare, hbare⟩ | ⟨f, hf, htells⟩
        · exact .inl ⟨vs, es, hvs, hes⟩
        · exact .inr (.inr ⟨_, .bareEntry hvs hbare⟩)
        · exact .inr (.inl ⟨f, (read_of_listsEntries h hvs).trans hf, htells⟩)
      · exact .inr (.inr ⟨_, .unlisted hv hpart⟩)
      · refine .inr (.inl ⟨f, ?_, htells⟩)
        rw [read_of_holdsJson h hv, hf]
        rfl

/-- What slips through is not told of the file. -/
theorem Stray.not_settings {f : Fault} (hf : Stray bytes f) : ¬ ∃ m, f = .settings m := by
  rintro ⟨m, rfl⟩
  generalize hm : Fault.settings m = f at hf
  cases hf <;> cases hm

/-- **What reading a units file comes to**, whatever the file holds. -/
theorem read_outcome (h : d.find path = .ok (.file bytes)) : Outcome path bytes (read d path) := by
  have hunits : ∀ es, read d path = .ok es ↔
      ∃ vs, ListsEntries bytes vs ∧ List.Forall₂ UnitEntry.Brings vs es := by
    intro es
    constructor
    · intro hread
      rcases read_cases h with ⟨vs, es', hvs, hes⟩ | ⟨f, hf, -⟩ | ⟨f, hf⟩
      · rw [read_of_listsEntries h hvs, unitsOf_of_brings hes] at hread
        exact ⟨vs, hvs, Except.ok.inj hread ▸ hes⟩
      · rw [hf] at hread
        cases hread
      · rw [read_of_stray h hf] at hread
        cases hread
    · rintro ⟨vs, hvs, hes⟩
      rw [read_of_listsEntries h hvs, unitsOf_of_brings hes]
  refine ⟨?_, hunits, fun f => ⟨?_, fun hf => ⟨read_of_stray h hf, hf.not_settings⟩⟩, ?_⟩
  · rcases read_cases h with ⟨vs, es, hvs, hes⟩ | htold | ⟨f, hf⟩
    · exact .inl ⟨es, (hunits es).2 ⟨vs, hvs, hes⟩⟩
    · exact .inr (.inl htold)
    · exact .inr (.inr ⟨f, read_of_stray h hf, hf⟩)
  · rintro ⟨hread, hother⟩
    rcases read_cases h with ⟨vs, es, hvs, hes⟩ | ⟨f', hf', m, rfl, -⟩ | ⟨f', hf'⟩
    · rw [(hunits es).2 ⟨vs, hvs, hes⟩] at hread
      cases hread
    · rw [hf'] at hread
      exact absurd ⟨m, (Except.error.inj hread).symm⟩ hother
    · rw [read_of_stray h hf'] at hread
      exact Except.error.inj hread ▸ hf'
  · exact fun _ _ e _ s hs => UnitEntry.exists_of_isSome_valueOf? (e.located s hs)

/-- A units file with a widget and, behind it, its name only. -/
def nameBehindWidget : Value := .list [.table [("name", .text "W")], .text "W"]

/-- A workspace with that file. -/
def nameBehindWidgetDisk : Disk :=
  { entries := Table.ofList [("/u", .file (Text.encode (Json.pretty nameBehindWidget)))] }

/-- The case of an entry that is no table: the name behind the widget slips through. -/
theorem read_outcome_name :
    nameBehindWidgetDisk.find (.ofText "u") =
        .ok (.file (Text.encode (Json.pretty nameBehindWidget))) ∧
      read nameBehindWidgetDisk (.ofText "u") = .error ((Value.text "W").lacks "get") ∧
      ¬ ∃ m, (Value.text "W").lacks "get" = Fault.settings m := by
  have hfind : nameBehindWidgetDisk.find (.ofText "u") =
      .ok (.file (Text.encode (Json.pretty nameBehindWidget))) := rfl
  have hplain : Json.Plain Json.depthLimit nameBehindWidget := by
    refine .list fun v hv => ?_
    rcases List.mem_pair.1 hv with rfl | rfl
    · refine .table (by decide : (["name".toList]).Nodup) fun e he => ?_
      rw [List.mem_singleton.1 he]
      exact .text _
    · exact .text _
  have htext : Text.ofFile (Text.encode (Json.pretty nameBehindWidget)) =
      .ok (Json.pretty nameBehindWidget) := by
    rw [Text.ofFile, Text.decode_encode]
    exact congrArg Except.ok (Text.unifyLineEnds_eq_self.2 (Json.not_mem_pretty hplain))
  have hbare : FirstBare [.table [("name", .text "W")], .text "W"] (.text "W") := by
    refine ⟨?_, [.table [("name", .text "W")]], [], rfl, fun v hv => ?_⟩
    · rintro ⟨_, h⟩
      cases h
    · rw [List.mem_singleton.1 hv]
      exact ⟨_, UnitEntry.ofValue_eq_ok.1 rfl⟩
  have hlists : ListsEntries (Text.encode (Json.pretty nameBehindWidget))
      [.table [("name", .text "W")], .text "W"] :=
    ⟨_, ⟨_, htext, Json.parse_pretty hplain⟩, .bare _⟩
  have hstray := ((read_outcome hfind).stray_iff _).2 (.bareEntry hlists hbare)
  exact ⟨hfind, hstray⟩

end UnitsFile

end UiHarness
