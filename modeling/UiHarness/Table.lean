import UiHarness.Text

/-!
# Tables

A table gives values to some texts, its keys, and remembers the order in which the keys came.
Giving a key a new value leaves it in its place.  No key occurs twice, by construction.

* `Table.get?`, `Table.insert`: the value of a key, and giving it one.
* `Table.ofList`: the table of a list of pairs; of two values for a key the later one counts.
* `Table.filter`, `Table.map`: tables with fewer keys and with other values.
-/

namespace UiHarness

/-- Values for texts, in order. -/
structure Table (α : Type) where
  /-- The pairs of a key and its value. -/
  entries : List (Text × α)
  /-- No key occurs twice. -/
  nodup : (entries.map Prod.fst).Nodup

namespace Table

variable {α β : Type}

/-- The table without keys. -/
def empty : Table α := ⟨[], List.Pairwise.nil⟩

instance : Inhabited (Table α) := ⟨empty⟩

/-- The keys, in order. -/
def keys (t : Table α) : List Text := t.entries.map Prod.fst

/-- The values, in the order of their keys. -/
def values (t : Table α) : List α := t.entries.map Prod.snd

/-- The value of a key in a list of pairs. -/
def lookup (key : Text) : List (Text × α) → Option α
  | [] => none
  | (k, v) :: rest => if k = key then some v else lookup key rest

/-- The value of a key. -/
def get? (t : Table α) (key : Text) : Option α := lookup key t.entries

/-- Whether a key has a value. -/
def contains (t : Table α) (key : Text) : Bool := (t.get? key).isSome

theorem lookup_eq_none_iff {key : Text} {l : List (Text × α)} :
    lookup key l = none ↔ key ∉ l.map Prod.fst := by
  induction l with
  | nil => simp [lookup]
  | cons e l ih =>
    by_cases h : e.1 = key
    · simp [lookup, h]
    · simp only [lookup, h, if_false, ih, List.map_cons, List.mem_cons, not_or]
      exact ⟨fun hl => ⟨fun hk => h hk.symm, hl⟩, fun hl => hl.2⟩

/-- A key has a value exactly if it is one of the keys. -/
theorem contains_iff (t : Table α) (key : Text) : t.contains key = true ↔ key ∈ t.keys := by
  rw [contains, Option.isSome_iff_ne_none, get?, ne_eq, lookup_eq_none_iff, Classical.not_not, keys]

/-! ## 1.  Giving values -/

/-- Gives a key of a list of pairs a value: in its place, or at the end if it is new. -/
def put (key : Text) (value : α) : List (Text × α) → List (Text × α)
  | [] => [(key, value)]
  | (k, v) :: rest => if k = key then (k, value) :: rest else (k, v) :: put key value rest

/-- The keys stay, and a new one comes last. -/
theorem keys_put (key : Text) (value : α) (l : List (Text × α)) :
    (put key value l).map Prod.fst =
      if key ∈ l.map Prod.fst then l.map Prod.fst else l.map Prod.fst ++ [key] := by
  induction l with
  | nil => simp [put]
  | cons e l ih =>
    by_cases h : e.1 = key
    · simp [put, h]
    · have h' : ¬ key = e.1 := fun hk => h hk.symm
      simp only [put, h, if_false, List.map_cons, ih, List.mem_cons, h', false_or]
      split <;> simp

theorem nodup_put (key : Text) (value : α) {l : List (Text × α)}
    (h : (l.map Prod.fst).Nodup) : ((put key value l).map Prod.fst).Nodup := by
  rw [keys_put]
  split
  · exact h
  · rename_i hk
    rw [List.nodup_append]
    refine ⟨h, by simp, fun a ha b hb => ?_⟩
    have hb' : b = key := by simpa using hb
    intro hab
    exact hk (hb' ▸ hab ▸ ha)

theorem lookup_put (key key' : Text) (value : α) (l : List (Text × α)) :
    lookup key' (put key value l) = if key = key' then some value else lookup key' l := by
  induction l with
  | nil => simp [put, lookup]
  | cons e l ih =>
    by_cases h : e.1 = key
    · by_cases h' : key = key'
      · simp [put, lookup, h, h']
      · simp [put, lookup, h, h']
    · by_cases h' : key = key'
      · subst h'
        simp [put, lookup, h, ih]
      · simp [put, lookup, h, ih, h']

/-- Gives a key a value. -/
def insert (t : Table α) (key : Text) (value : α) : Table α :=
  ⟨put key value t.entries, nodup_put key value t.nodup⟩

@[simp] theorem get?_insert (t : Table α) (key key' : Text) (value : α) :
    (t.insert key value).get? key' = if key = key' then some value else t.get? key' :=
  lookup_put key key' value t.entries

theorem keys_insert (t : Table α) (key : Text) (value : α) :
    (t.insert key value).keys = if key ∈ t.keys then t.keys else t.keys ++ [key] :=
  keys_put key value t.entries

/-- Gives several keys their values, one after the other. -/
def insertAll (t : Table α) (l : List (Text × α)) : Table α :=
  l.foldl (fun t e => t.insert e.1 e.2) t

/-- The table of a list of pairs. -/
def ofList (l : List (Text × α)) : Table α := empty.insertAll l

/-! ## 2.  Other tables -/

/-- The table of the keys that pass a test. -/
def filter (t : Table α) (p : Text → Bool) : Table α :=
  ⟨t.entries.filter fun e => p e.1,
    List.Pairwise.sublist (List.Sublist.map Prod.fst List.filter_sublist) t.nodup⟩

theorem keys_filter (t : Table α) (p : Text → Bool) : (t.filter p).keys = t.keys.filter p := by
  simp only [filter, keys, List.filter_map]
  rfl

/-- The table with other values. -/
def map (f : α → β) (t : Table α) : Table β :=
  ⟨t.entries.map fun e => (e.1, f e.2), by
    have h : (t.entries.map fun e => (e.1, f e.2)).map Prod.fst = t.entries.map Prod.fst := by
      simp
    rw [h]
    exact t.nodup⟩

@[simp] theorem keys_map (f : α → β) (t : Table α) : (t.map f).keys = t.keys := by
  simp [keys, map]

/-- The table with values that depend on their keys. -/
def mapKeyed (f : Text → α → β) (t : Table α) : Table β :=
  ⟨t.entries.map fun e => (e.1, f e.1 e.2), by
    have h : (t.entries.map fun e => (e.1, f e.1 e.2)).map Prod.fst = t.entries.map Prod.fst := by
      simp
    rw [h]
    exact t.nodup⟩

@[simp] theorem keys_mapKeyed (f : Text → α → β) (t : Table α) :
    (t.mapKeyed f).keys = t.keys := by
  simp [keys, mapKeyed]

end Table

end UiHarness
