import UiHarness.Table

/-!
# The pairs of a table

Since no key occurs twice, a table gives a key the value that stands beside it.  A table that is
made from a list gives the last value of a key in the list.
-/

namespace UiHarness.Table

variable {α β : Type}

theorem mem_of_lookup {key : Text} {v : α} {l : List (Text × α)} (h : lookup key l = some v) :
    (key, v) ∈ l := by
  induction l with
  | nil => cases h
  | cons e l ih =>
    rw [lookup] at h
    split at h
    · rename_i hk
      rw [← hk, ← Option.some.inj h]
      exact List.mem_cons_self ..
    · exact List.mem_cons_of_mem _ (ih h)

theorem lookup_of_mem {e : Text × α} {l : List (Text × α)} (hl : (l.map Prod.fst).Nodup)
    (he : e ∈ l) : lookup e.1 l = some e.2 := by
  induction l with
  | nil => cases he
  | cons x l ih =>
    rw [List.map_cons, List.nodup_cons] at hl
    rw [lookup]
    rcases List.mem_cons.1 he with rfl | he
    · rw [if_pos rfl]
    · have hne : ¬ x.1 = e.1 := fun hx => hl.1 (hx ▸ List.mem_map_of_mem he)
      rw [if_neg hne, ih hl.2 he]

/-- **A key has the value beside it.** -/
theorem get?_eq_some {t : Table α} {key : Text} {v : α} :
    t.get? key = some v ↔ (key, v) ∈ t.entries :=
  ⟨mem_of_lookup, fun h => lookup_of_mem t.nodup h⟩

theorem get?_of_mem {t : Table α} {e : Text × α} (he : e ∈ t.entries) : t.get? e.1 = some e.2 :=
  get?_eq_some.2 he

theorem get?_mapKeyed (f : Text → α → β) (t : Table α) (key : Text) :
    (t.mapKeyed f).get? key = (t.get? key).map (f key) := by
  have hl : ∀ l : List (Text × α),
      lookup key (l.map fun e => (e.1, f e.1 e.2)) = (lookup key l).map (f key) := by
    intro l
    induction l with
    | nil => rfl
    | cons e l ih =>
      rw [List.map_cons, lookup, lookup]
      split
      · rename_i hk
        rw [Option.map_some, ← hk]
      · exact ih
  exact hl t.entries

theorem get?_map (f : α → β) (t : Table α) (key : Text) :
    (t.map f).get? key = (t.get? key).map f :=
  get?_mapKeyed (fun _ => f) t key

theorem get?_filter (t : Table α) (p : Text → Bool) (key : Text) :
    (t.filter p).get? key = if p key then t.get? key else none := by
  refine Option.ext fun v => ?_
  rw [get?_eq_some, filter, List.mem_filter]
  split
  · rename_i hp
    rw [get?_eq_some]
    exact and_iff_left hp
  · rename_i hp
    exact iff_of_false (fun h => hp h.2) fun h => (by cases h)

theorem filter_mapKeyed (f : Text → α → β) (t : Table α) (p : Text → Bool) :
    (t.mapKeyed f).filter p = (t.filter p).mapKeyed f := by
  simp only [filter, mapKeyed, mk.injEq, List.filter_map]
  rfl

theorem filter_eq_self {t : Table α} {p : Text → Bool} (h : ∀ key ∈ t.keys, p key = true) :
    t.filter p = t := by
  have hentries : t.entries.filter (fun e => p e.1) = t.entries :=
    List.filter_eq_self.2 fun e he => h e.1 (List.mem_map_of_mem he)
  cases t
  exact mk.injEq .. ▸ hentries

theorem mem_keys_insert {t : Table α} {key key' : Text} {v : α} :
    key' ∈ (t.insert key v).keys ↔ key' = key ∨ key' ∈ t.keys := by
  rw [keys_insert]
  split
  · rename_i hk
    exact ⟨.inr, fun h => h.elim (fun heq => heq ▸ hk) id⟩
  · rw [List.mem_append, List.mem_singleton, or_comm]

/-- Giving keys their values brings in no other pairs. -/
theorem mem_of_get?_insertAll {t : Table α} {l : List (Text × α)} {key : Text} {v : α}
    (h : (t.insertAll l).get? key = some v) : (key, v) ∈ l ∨ t.get? key = some v := by
  induction l generalizing t with
  | nil => exact .inr h
  | cons e l ih =>
    rcases ih h with hl | ht
    · exact .inl (List.mem_cons_of_mem _ hl)
    · rw [get?_insert] at ht
      split at ht
      · rename_i hk
        rw [← hk, ← Option.some.inj ht]
        exact .inl (List.mem_cons_self ..)
      · exact .inr ht

/-- The table of a list has its pairs only. -/
theorem mem_of_get?_ofList {l : List (Text × α)} {key : Text} {v : α}
    (h : (ofList l).get? key = some v) : (key, v) ∈ l :=
  (mem_of_get?_insertAll h).resolve_right fun h => by cases h

theorem put_of_not_mem {key : Text} {l : List (Text × α)} (v : α) (h : key ∉ l.map Prod.fst) :
    put key v l = l ++ [(key, v)] := by
  induction l with
  | nil => rfl
  | cons e l ih =>
    rw [List.map_cons, List.mem_cons, not_or] at h
    rw [put, if_neg fun he => h.1 he.symm, ih h.2, List.cons_append]

theorem entries_insertAll {t : Table α} {l : List (Text × α)}
    (h : ((t.entries ++ l).map Prod.fst).Nodup) : (t.insertAll l).entries = t.entries ++ l := by
  induction l generalizing t with
  | nil => exact (List.append_nil _).symm
  | cons e l ih =>
    have hnew : e.1 ∉ t.entries.map Prod.fst := by
      rw [List.map_append, List.nodup_append] at h
      exact fun he => h.2.2 e.1 he e.1 (List.mem_cons_self ..) rfl
    have hput : (t.insert e.1 e.2).entries = t.entries ++ [e] := put_of_not_mem e.2 hnew
    change ((t.insert e.1 e.2).insertAll l).entries = _
    rw [ih (by rwa [hput, List.append_assoc]), hput, List.append_assoc]
    rfl

/-- **The table of pairs with different keys** has just these pairs. -/
theorem entries_ofList {l : List (Text × α)} (h : (l.map Prod.fst).Nodup) :
    (ofList l).entries = l :=
  entries_insertAll (t := empty) h

/-- Of the values that a key is given one after the other, the last one counts. -/
theorem get?_insertAll (t : Table α) (l : List (Text × α)) (key : Text) :
    (t.insertAll l).get? key = ((l.reverse.find? (·.1 = key)).map Prod.snd).or (t.get? key) := by
  induction l generalizing t with
  | nil => rfl
  | cons e l ih =>
    have hstep : (t.insertAll (e :: l)).get? key = ((t.insert e.1 e.2).insertAll l).get? key := rfl
    rw [hstep, ih, get?_insert, List.reverse_cons, List.find?_append]
    cases l.reverse.find? (·.1 = key) with
    | some found => rfl
    | none =>
      by_cases hkey : e.1 = key
      · simp [hkey]
      · simp [hkey]

/-- A table of pairs with different keys gives what is found among the pairs. -/
theorem get?_ofList {l : List α} {key : α → Text} (h : (l.map key).Nodup) (value : α → β)
    (k : Text) : (ofList (l.map fun a => (key a, value a))).get? k =
      (l.find? (key · = k)).map value := by
  have hkeys : ((l.map fun a => (key a, value a)).map Prod.fst).Nodup := by
    rwa [List.map_map]
  rw [Table.get?, entries_ofList hkeys]
  clear h hkeys
  induction l with
  | nil => rfl
  | cons a l ih =>
    rw [List.map_cons, lookup, List.find?_cons]
    by_cases hk : key a = k
    · rw [if_pos hk, decide_eq_true hk]
      rfl
    · rw [if_neg hk, decide_eq_false hk]
      exact ih

theorem ofList_entries (t : Table α) : ofList t.entries = t := by
  have h := entries_ofList t.nodup
  cases t
  exact mk.injEq .. ▸ h

end UiHarness.Table
