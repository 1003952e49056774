import UiHarness.Command.Run
import UiHarness.Proofs.Detection.Rescan
import UiHarness.Proofs.Disk.Writes
import UiHarness.Proofs.Fence
import UiHarness.Proofs.Json.RoundTrip

/-!
# What a units file keeps

The units that are found among added files can be saved and taken up again without loss: the same
units in the same order, each with its names, its declarations, its sources and its tabs.

Three steps go there and back.  A unit is turned into an entry, which keeps of a widget neither
route nor tabs, and reads what is empty as if it were missing; so it matters that a widget that is
found has neither, and that nothing that is found in a declaration is empty.  An entry is turned
into a value, whose text is read back as it was.  The text goes through a file, which loses the
difference between line ends; but a JSON text has line feeds only, and those of the sources stand
in it as escapes.

* `UnitEntry.ofValue_toValue`: the entry of a unit is read back from its value.
* `UnitEntry.toUnit_ofUnit`: a unit is brought back by its entry.
* `Detection.regular_of_mem`: this is known of the units that are found.
* `UnitsFile.parse_text`: the entries are read back from the text of the file.
* `UnitsFile.lossless`: the units are taken up again from the file.
-/

namespace UiHarness

/-- A value that is a text. -/
def Value.IsText (v : Value) : Prop := ∃ t : Text, v = .text t

/-- A unit as its files give it: a widget has neither route nor tabs, tabs are made of texts, and
what is declared is not empty. -/
structure UiUnit.Regular (u : UiUnit) : Prop where
  kind : u.kind = .widget ∧ u.route = none ∧ u.tabs = [] ∨ u.kind = .page
  tabs : ∀ t ∈ u.tabs, t.name.IsText ∧ t.route.IsText ∧ t.label.IsText
  declaredId : u.declaredId ≠ some []
  displayName : u.displayName ≠ some []
  route : u.route ≠ some []
  fit : u.misfits = []

/-! ## 1.  Entries as values -/

theorem Tab.ofValue_toValue (t : Tab) : Tab.ofValue t.toValue = .ok t := rfl

namespace UnitEntry

variable {u : UiUnit}

theorem entriesIfAny_pairsOf (t : Table Text) :
    (tableValue (pairsOf t)).entriesIfAny = .ok (pairsOf t) := by
  rw [Value.entriesIfAny]
  split
  · rw [tableValue, Value.entries, pairsOf, List.map_map, List.map_map]
    rfl
  · rename_i h
    rw [tableValue, Value.isTrue, Bool.not_eq_true', Bool.not_eq_false, List.isEmpty_iff,
      List.map_eq_nil_iff] at h
    rw [h]

/-- The values beside the keys of an entry. -/
theorem get?_toValue (e : UnitEntry) :
    e.toValue.get? "type" = some e.kind ∧ e.toValue.get? "name" = some e.name ∧
      e.toValue.get? "entity" = some e.category ∧ e.toValue.get? "path" = some e.root ∧
      e.toValue.get? "id" = some e.declaredId ∧ e.toValue.get? "displayName" = some e.displayName ∧
      e.toValue.get? "sources" = some (tableValue e.sources) ∧
      e.toValue.get? "sourcePaths" = some (tableValue e.paths) :=
  ⟨rfl, rfl, rfl, rfl, rfl, rfl, rfl, rfl⟩

theorem isPage_ofUnit (h : u.Regular) : (ofUnit u).isPage = true ↔ u.kind = .page := by
  rcases h.kind with ⟨hkind, -⟩ | hkind
  · have hpage : (ofUnit u).isPage = false := by
      rw [isPage, ofUnit, hkind]
      rfl
    rw [hpage, hkind]
    exact ⟨fun h => (by cases h), fun h => (by cases h)⟩
  · refine ⟨fun _ => hkind, fun _ => ?_⟩
    rw [isPage, ofUnit, hkind]
    rfl

/-- What stands beside the other keys: a page has a route and tabs, and a widget needs none. -/
theorem get?_toValue_ofUnit (h : u.Regular) :
    ((ofUnit u).toValue.get? "route").getD .null = .ofOption u.route ∧
      (ofUnit u).toValue.get? "entityType" = none ∧
      (((ofUnit u).toValue.get? "tabs").getD .null = .list (u.tabs.map Tab.toValue) ∨
        ((ofUnit u).toValue.get? "tabs").getD .null = .null ∧ u.tabs = []) := by
  by_cases hpage : (ofUnit u).isPage = true
  · rw [toValue, if_pos hpage]
    exact ⟨rfl, rfl, .inl rfl⟩
  · rw [toValue, if_neg hpage]
    rcases h.kind with ⟨-, hroute, htabs⟩ | hkind
    · exact ⟨by rw [hroute]; rfl, rfl, .inr ⟨rfl, htabs⟩⟩
    · exact absurd ((isPage_ofUnit h).2 hkind) hpage

theorem firstTrue_toValue_ofUnit (h : u.Regular) :
    firstTrue (ofUnit u).toValue "entity" "entityType" = .text u.category := by
  obtain ⟨-, -, hentity, -⟩ := get?_toValue (ofUnit u)
  obtain ⟨-, hnone, -⟩ := get?_toValue_ofUnit h
  rw [firstTrue, hentity, hnone]
  -- an empty category is read as a missing one, and what stands for it is empty as well
  cases hcategory : u.category with
  | nil =>
    have hempty : (ofUnit u).category = .text [] := congrArg Value.text hcategory
    rw [Option.getD_some, hempty]
    rfl
  | cons c t =>
    have hfull : (ofUnit u).category = .text (c :: t) := congrArg Value.text hcategory
    rw [Option.getD_some, hfull]
    rfl

/-- The tabs of an entry are read back. -/
theorem tabs_toValue_ofUnit {v : Value} (h : v = .list (u.tabs.map Tab.toValue) ∨
    v = .null ∧ u.tabs = []) : (v.isTrue = true → ∃ vs, v.members = .ok vs ∧
      vs.mapM Tab.ofValue = .ok u.tabs) ∧ (¬ v.isTrue = true → u.tabs = []) := by
  rcases h with rfl | ⟨rfl, htabs⟩
  · refine ⟨fun _ => ⟨_, rfl, ?_⟩, fun h => ?_⟩
    · rw [List.mapM_map, Except.mapM_eq_ok (f := Tab.ofValue ∘ Tab.toValue) (g := id)
        fun t _ => Tab.ofValue_toValue t, List.map_id]
    · rw [Value.isTrue, Bool.not_eq_true', Bool.not_eq_false, List.isEmpty_iff,
        List.map_eq_nil_iff] at h
      exact h
  · exact ⟨fun h => absurd h Bool.false_ne_true, fun _ => htabs⟩

/-- **The entry of a unit is read back from its value.** -/
theorem ofValue_toValue (h : u.Regular) : ofValue (ofUnit u).toValue = .ok (ofUnit u) := by
  obtain ⟨hkind, hname, -, hroot, hid, hdisplay, hsources, hpaths⟩ := get?_toValue (ofUnit u)
  obtain ⟨hroute, -, htabs⟩ := get?_toValue_ofUnit h
  obtain ⟨hsome, hnone⟩ := tabs_toValue_ofUnit htabs
  unfold ofValue
  rw [hkind, hname, hroot, hid, hdisplay, hsources, hpaths, hroute, firstTrue_toValue_ofUnit h]
  refine Except.bind_eq_ok.2 ⟨_, rfl, ?_⟩
  refine Except.bind_eq_ok.2 ⟨_, entriesIfAny_pairsOf u.sources, ?_⟩
  refine Except.bind_eq_ok.2 ⟨_, entriesIfAny_pairsOf u.paths, ?_⟩
  by_cases htrue : (((ofUnit u).toValue.get? "tabs").getD .null).isTrue = true
  · obtain ⟨vs, hvs, hread⟩ := hsome htrue
    rw [if_pos htrue]
    refine Except.bind_eq_ok.2 ⟨vs, hvs, Except.bind_eq_ok.2 ⟨_, hread, ?_⟩⟩
    exact dif_pos (ofUnit u).located
  · rw [if_neg htrue]
    refine Except.bind_eq_ok.2 ⟨u.tabs, by rw [hnone htrue]; rfl, ?_⟩
    exact dif_pos (ofUnit u).located

/-! ## 2.  Units of entries -/

theorem shown?_ofOption {t : Option Text} (h : t ≠ some []) : shown? (.ofOption t) = t := by
  match t, h with
  | none, _ => rfl
  | some (c :: t), _ => rfl

theorem getD_shown?_text (t : Text) : (shown? (.text t)).getD [] = t := by
  cases t with
  | nil => rfl
  | cons c t => rfl

/-- A table of texts is brought back by its pairs, if each text is. -/
theorem ofList_map_pairsOf {f : Value → Text} (hf : ∀ t : Text, f (.text t) = t) (t : Table Text) :
    Table.ofList ((pairsOf t).map fun e => (e.1.display, f e.2)) = t := by
  have hpairs : (pairsOf t).map (fun e => (e.1.display, f e.2)) = t.entries := by
    rw [pairsOf, List.map_map]
    refine List.map_id'' (fun e => ?_) _
    exact congrArg (Prod.mk e.1) (hf e.2)
  rw [hpairs]
  exact Table.ofList_entries t

/-- A list of texts has no fault that texts do not have. -/
theorem faultIn_eq_none {f : Value → Option Fault} (hf : ∀ t : Text, f (.text t) = none)
    {vs : List Value} (h : ∀ v ∈ vs, v.IsText) : faultIn f vs = none := by
  refine List.findSome?_eq_none_iff.2 fun v hv => ?_
  obtain ⟨t, rfl⟩ := h v hv
  exact hf t

/-- Texts can be joined. -/
theorem exists_joined (separator : Text) {vs : List Value} (h : ∀ v ∈ vs, v.IsText) :
    ∃ t, Value.joined separator vs = .ok t := by
  refine ⟨_, Except.bind_eq_ok.2 ⟨_, Except.mapM_eq_ok (g := fun p => p.1.display) ?_, rfl⟩⟩
  rintro ⟨v, i⟩ hp
  obtain ⟨t, rfl⟩ := h v (List.fst_mem_of_mem_zipIdx hp)
  rfl

/-- The pairs of a table of texts are texts. -/
theorem exists_of_mem_pairsOf {t : Table Text} {e : Value × Value} (h : e ∈ pairsOf t) :
    ∃ key text : Text, e = (.text key, .text text) := by
  obtain ⟨f, -, rfl⟩ := List.mem_map.1 h
  exact ⟨f.1, f.2, rfl⟩

theorem exists_sectionId_ofUnit (u : UiUnit) :
    ∃ id : Text, (ofUnit u).sectionId = .ok (.text id) := by
  rw [sectionId]
  split
  · rename_i h
    match hid : u.declaredId with
    | none =>
      rw [ofUnit, hid] at h
      cases h
    | some id => exact ⟨id, by rw [ofUnit, hid]; rfl⟩
  · exact ⟨Text.lower u.name, rfl⟩

/-- The texts of an entry are fit for all uses. -/
theorem misfits_ofUnit (u : UiUnit) : (ofUnit u).misfits = [] := by
  obtain ⟨id, hid⟩ := exists_sectionId_ofUnit u
  have hkeys : ∀ v ∈ (ofUnit u).sources.map Prod.fst, v.IsText := by
    intro v hv
    obtain ⟨e, he, rfl⟩ := List.mem_map.1 hv
    obtain ⟨key, text, rfl⟩ := exists_of_mem_pairsOf he
    exact ⟨key, rfl⟩
  have hcodes : ∀ v ∈ (ofUnit u).sources.map Prod.snd, v.IsText := by
    intro v hv
    obtain ⟨e, he, rfl⟩ := List.mem_map.1 hv
    obtain ⟨key, text, rfl⟩ := exists_of_mem_pairsOf he
    exact ⟨text, rfl⟩
  have hown : ∀ v ∈ (ofUnit u).ownCodes, v.IsText := by
    intro v hv
    obtain ⟨e, he, hv⟩ := List.mem_filterMap.1 hv
    obtain ⟨key, text, rfl⟩ := exists_of_mem_pairsOf he
    dsimp only at hv
    split at hv
    · cases hv
    · exact ⟨text, (Option.some.inj hv).symm⟩
  obtain ⟨all, hall⟩ := exists_joined ['\n'] hcodes
  have hsection : (ofUnit u).sectionFault = none := by rw [sectionFault, hid]
  have hname : notText "lower" (ofUnit u).name = none ∧ notKey (ofUnit u).name = none ∧
      notSliced (ofUnit u).name = none ∧ notPart (ofUnit u).name = none := ⟨rfl, rfl, rfl, rfl⟩
  have hcategory : notPart (ofUnit u).category = none := rfl
  unfold misfits
  dsimp only
  rw [hsection, hall, hid, faultIn_eq_none (fun _ => rfl) hkeys,
    faultIn_eq_none (fun _ => rfl) hkeys, faultIn_eq_none (fun _ => rfl) hown, hcategory, hname.1,
    hname.2.1, hname.2.2.1, hname.2.2.2]
  cases (ofUnit u).isPage
  · rfl
  · cases (ofUnit u).category.isTrue
    · rfl
    · rfl

/-- **A unit is brought back by its entry.** -/
theorem toUnit_ofUnit (h : u.Regular) : (ofUnit u).toUnit = u := by
  have hkind : UnitKind.ofText (ofUnit u).kind.display = u.kind := by
    rcases h.kind with ⟨hkind, -⟩ | hkind
    · rw [ofUnit, hkind]
      rfl
    · rw [ofUnit, hkind]
      rfl
  have hpaths := ofList_map_pairsOf (f := fun v => (shown? v).getD []) getD_shown?_text u.paths
  have hsources := ofList_map_pairsOf (f := Value.display) (fun _ => rfl) u.sources
  have hfilter := Table.filter_eq_self u.located
  have hid := shown?_ofOption h.declaredId
  have hname := shown?_ofOption h.displayName
  have hroute := shown?_ofOption h.route
  have hmisfits := (misfits_ofUnit u).trans h.fit.symm
  cases u
  rw [toUnit]
  rw [UiUnit.mk.injEq]
  exact ⟨hkind, rfl, rfl, rfl, hid, hname,
    (congrArg₂ Table.filter hsources (congrArg Table.contains hpaths)).trans hfilter,
    hpaths, hroute, rfl, hmisfits⟩

end UnitEntry

namespace Detection

variable {d : Disk} {s : Settings} {u : UiUnit}

/-! ## 3.  Units that are found -/

/-- What stands in quotes is not empty. -/
theorem ne_nil_of_quoted? {t : Text} {found : Text × Text} (h : quoted? t = some found) :
    found.1 ≠ [] := by
  rw [quoted?] at h
  split at h
  · cases h
  · split at h
    · obtain rfl := Option.some.inj h
      exact List.cons_ne_nil _ _
    · cases h

theorem ne_nil_of_property? {name t : Text} {found : Text × Text}
    (h : property? name t = some found) : found.1 ≠ [] := by
  obtain ⟨r, -, h⟩ := Option.bind_eq_some_iff.1 h
  exact ne_nil_of_quoted? h

theorem ne_nil_of_path? {t : Text} {found : Text × Text} (h : path? t = some found) :
    found.1 ≠ [] := by
  obtain ⟨r, -, h⟩ := Option.bind_eq_some_iff.1 h
  dsimp only at h
  split at h
  · exact ne_nil_of_quoted? h
  · exact ne_nil_of_quoted? h
  · cases h

/-- What is found by a recogniser of texts that are not empty is not empty. -/
theorem findFirst?_ne_nil {p : Text → Option (Text × Text)}
    (hp : ∀ t found, p t = some found → found.1 ≠ []) (t : Text) :
    (Text.findFirst? p t).map Prod.fst ≠ some [] := by
  intro h
  obtain ⟨found, hfound, hnil⟩ := Option.map_eq_some_iff.1 h
  obtain ⟨r, -, hr⟩ := Text.exists_of_findFirst? hfound
  exact hp r found hr hnil

theorem of_entryFacts {unit : Path} {facts : Option Text × Option Text}
    (h : entryFacts d unit = .ok facts) : facts.1 ≠ some [] ∧ facts.2 ≠ some [] := by
  obtain ⟨entry, -, h⟩ := Except.bind_eq_ok.1 h
  cases entry with
  | none =>
    obtain rfl := Except.ok.inj h
    exact ⟨fun h => (by cases h), fun h => (by cases h)⟩
  | some path =>
    obtain ⟨code, -, h⟩ := Except.bind_eq_ok.1 h
    cases code with
    | none =>
      obtain rfl := Except.ok.inj h
      exact ⟨fun h => (by cases h), fun h => (by cases h)⟩
    | some t =>
      obtain rfl := Except.ok.inj h
      exact ⟨findFirst?_ne_nil (fun _ _ => ne_nil_of_property?) t,
        findFirst?_ne_nil (fun _ _ => ne_nil_of_property?) t⟩

theorem route?_ne_nil (sources : Table Text) : route? sources ≠ some [] := by
  intro h
  obtain ⟨e, -, he⟩ := List.exists_of_findSome?_eq_some h
  exact findFirst?_ne_nil (fun _ _ => ne_nil_of_path?) e.2 he

/-- A tab that is declared is made of texts. -/
theorem isText_of_tabOf? {e : Syntax.Element} {t : Tab} (h : tabOf? e = some t) :
    t.name.IsText ∧ t.route.IsText ∧ t.label.IsText := by
  have hmade : ∀ {label route : Text},
      (if label.isEmpty then none else some (Tab.mk (.text label) (.text route) (.text label))) =
        some t → t.name.IsText ∧ t.route.IsText ∧ t.label.IsText := by
    intro label route h
    split at h
    · cases h
    · obtain rfl := Option.some.inj h
      exact ⟨⟨label, rfl⟩, ⟨route, rfl⟩, ⟨label, rfl⟩⟩
  unfold tabOf? at h
  dsimp only at h
  split at h
  · cases h
  · obtain ⟨label, -, h⟩ := Option.bind_eq_some_iff.1 h
    split at h
    · split at h
      · obtain ⟨route, -, h⟩ := Option.bind_eq_some_iff.1 h
        exact hmade h
      · exact hmade h
    · obtain ⟨route, -, h⟩ := Option.bind_eq_some_iff.1 h
      exact hmade h

/-- The tabs that sources declare are made of texts. -/
theorem isText_of_mem_tabs {sources paths : Table Text} {t : Tab} (h : t ∈ tabs sources paths) :
    t.name.IsText ∧ t.route.IsText ∧ t.label.IsText := by
  obtain ⟨e, -, he⟩ := List.mem_flatMap.1 h
  unfold tabsIn at he
  split at he
  · obtain ⟨x, -, hx⟩ := List.mem_filterMap.1 he
    exact isText_of_tabOf? hx
  · exact absurd he List.not_mem_nil

theorem regular_of_widgetAt? {entity name root : Text}
    (h : widgetAt? d s entity name root = .ok (some u)) : u.Regular := by
  obtain ⟨path, -, h⟩ := Except.bind_eq_ok.1 h
  obtain ⟨entry, -, h⟩ := Except.bind_eq_ok.1 h
  split at h
  · cases h
  · obtain ⟨facts, hfacts, h⟩ := Except.bind_eq_ok.1 h
    obtain ⟨packageRoot, -, h⟩ := Except.bind_eq_ok.1 h
    obtain ⟨files, -, h⟩ := Except.bind_eq_ok.1 h
    obtain rfl := Option.some.inj (Except.ok.inj h)
    obtain ⟨hid, hname⟩ := of_entryFacts hfacts
    exact ⟨.inl ⟨rfl, rfl, rfl⟩, fun t ht => absurd ht List.not_mem_nil, hid, hname,
      fun h => (by cases h), rfl⟩

theorem regular_of_pageAt? {name root : Text} (h : pageAt? d s name root = .ok (some u)) :
    u.Regular := by
  obtain ⟨path, -, h⟩ := Except.bind_eq_ok.1 h
  obtain ⟨isDirectory, -, h⟩ := Except.bind_eq_ok.1 h
  split at h
  · obtain ⟨files, -, h⟩ := Except.bind_eq_ok.1 h
    split at h
    · cases h
    · obtain rfl := Option.some.inj (Except.ok.inj h)
      exact ⟨.inr rfl, fun t ht => isText_of_mem_tabs ht, fun h => (by cases h),
        fun h => (by cases h), route?_ne_nil _, rfl⟩
  · cases h

/-- **The units that are found** are as their files give them. -/
theorem regular_of_mem {added : List Text} {found : UiHarness.Detection}
    (h : (fromFiles d s added).outcome.2 = .ok found) : ∀ u ∈ found.units, u.Regular := by
  obtain ⟨hwidgets, hpages, -⟩ := fromFiles_eq_ok.1 h
  intro u hu
  rcases List.mem_append.1 hu with hu | hu
  · obtain ⟨p, -, hnew⟩ := (Search.mem_iff (faithful_widgetSearch d s) hwidgets).1 hu
    obtain ⟨here, hhere, hnew⟩ := Except.bind_eq_ok.1 hnew
    obtain rfl := (unserved_eq_ok hnew).1 u rfl
    exact regular_of_widgetAt? hhere
  · obtain ⟨p, -, hnew⟩ := (Search.mem_iff (faithful_pageSearch d s) hpages).1 hu
    obtain ⟨here, hhere, hnew⟩ := Except.bind_eq_ok.1 hnew
    obtain rfl := (unserved_eq_ok hnew).1 u rfl
    exact regular_of_pageAt? hhere

end Detection

namespace UnitsFile

variable {u : UiUnit}

/-! ## 4.  The text of the file -/

theorem plain_ofOption {depth : Nat} (t : Option Text) : Json.Plain depth (.ofOption t) := by
  cases t with
  | none => exact .null
  | some t => exact .text t

theorem plain_of_isText {depth : Nat} {v : Value} (h : v.IsText) : Json.Plain depth v := by
  obtain ⟨t, rfl⟩ := h
  exact .text t

theorem plain_tableValue {depth : Nat} (t : Table Text) :
    Json.Plain (depth + 1) (UnitEntry.tableValue (UnitEntry.pairsOf t)) := by
  have hentries : (UnitEntry.pairsOf t).map (fun e => (e.1.keyText, e.2)) =
      t.entries.map fun e => (e.1, .text e.2) := by
    rw [UnitEntry.pairsOf, List.map_map]
    rfl
  rw [UnitEntry.tableValue, hentries]
  refine .table ?_ fun e he => ?_
  · rw [List.map_map]
    exact t.nodup
  · obtain ⟨f, -, rfl⟩ := List.mem_map.1 he
    exact .text f.2

theorem plain_tab {depth : Nat} {t : Tab}
    (h : t.name.IsText ∧ t.route.IsText ∧ t.label.IsText) : Json.Plain (depth + 1) t.toValue := by
  refine .table (by decide : (["name".toList, "route".toList, "label".toList]).Nodup) ?_
  simp only [List.forall_mem_cons]
  exact ⟨plain_of_isText h.1, plain_of_isText h.2.1, plain_of_isText h.2.2,
    fun _ h => absurd h List.not_mem_nil⟩

theorem plain_tabs {depth : Nat} {tabs : List Tab}
    (h : ∀ t ∈ tabs, t.name.IsText ∧ t.route.IsText ∧ t.label.IsText) :
    Json.Plain (depth + 2) (.list (tabs.map Tab.toValue)) := by
  refine .list fun v hv => ?_
  obtain ⟨t, ht, rfl⟩ := List.mem_map.1 hv
  exact plain_tab (h t ht)

theorem plain_entryValue {depth : Nat} (h : u.Regular) : Json.Plain (depth + 3) (entryValue u) := by
  have hfacts : ∀ e ∈ ([("type", .text u.kind.text), ("name", .text u.name),
      ("entity", .text u.category), ("path", .text u.root), ("id", .ofOption u.declaredId),
      ("displayName", .ofOption u.displayName),
      ("sources", UnitEntry.tableValue (UnitEntry.pairsOf u.sources)),
      ("sourcePaths", UnitEntry.tableValue (UnitEntry.pairsOf u.paths))] : List (Text × Value)),
      Json.Plain (depth + 2) e.2 := by
    simp only [List.forall_mem_cons]
    exact ⟨.text _, .text _, .text _, .text _, plain_ofOption _, plain_ofOption _,
      plain_tableValue _, plain_tableValue _, fun _ h => absurd h List.not_mem_nil⟩
  rw [entryValue, UnitEntry.toValue]
  split
  · refine .table (by decide : (["type".toList, "name".toList, "entity".toList, "path".toList,
      "id".toList, "displayName".toList, "sources".toList, "sourcePaths".toList, "route".toList,
      "tabs".toList]).Nodup) (List.forall_mem_append.2 ⟨hfacts, ?_⟩)
    simp only [List.forall_mem_cons]
    exact ⟨plain_ofOption _, plain_tabs h.tabs, fun _ h => absurd h List.not_mem_nil⟩
  · exact .table (by decide : (["type".toList, "name".toList, "entity".toList, "path".toList,
      "id".toList, "displayName".toList, "sources".toList, "sourcePaths".toList]).Nodup)
      (List.forall_mem_append.2 ⟨hfacts, fun _ h => absurd h List.not_mem_nil⟩)

/-- The units that were detected, as a value. -/
def value (found : Detection) : Value :=
  .table [("widgets", .list (found.widgets.map entryValue)),
    ("pages", .list (found.pages.map entryValue))]

variable {found : Detection}

theorem plain_value (depth : Nat) (h : ∀ u ∈ found.units, u.Regular) :
    Json.Plain (depth + 5) (value found) := by
  obtain ⟨hwidgets, hpages⟩ := List.forall_mem_append.1 h
  have hlist : ∀ us : List UiUnit, (∀ u ∈ us, u.Regular) →
      Json.Plain (depth + 4) (.list (us.map entryValue)) := by
    intro us hus
    refine .list fun v hv => ?_
    obtain ⟨u, hu, rfl⟩ := List.mem_map.1 hv
    exact plain_entryValue (hus u hu)
  refine .table (by decide : (["widgets".toList, "pages".toList]).Nodup) ?_
  simp only [List.forall_mem_cons]
  exact ⟨hlist _ hwidgets, hlist _ hpages, fun _ h => absurd h List.not_mem_nil⟩

/-- **The entries are read back from the text of the file.** -/
theorem parse_text (path : Path) (h : ∀ u ∈ found.units, u.Regular) :
    parse path (text found) = .ok (found.units.map UnitEntry.ofUnit) := by
  have hread : Json.parse (text found) = .ok (value found) :=
    Json.parse_pretty (plain_value 980 h)
  have hentries : entriesOf path (value found) = .ok (found.units.map entryValue) := by
    rw [Detection.units, List.map_append]
    rfl
  have hunits : (found.units.map entryValue).mapM UnitEntry.ofValue =
      .ok (found.units.map UnitEntry.ofUnit) := by
    rw [List.mapM_map]
    exact Except.mapM_eq_ok fun u hu => UnitEntry.ofValue_toValue (h u hu)
  rw [parse, hread]
  refine Except.bind_eq_ok.2 ⟨_, hentries, ?_⟩
  rw [unitsOf, hunits]

theorem not_mem_text (h : ∀ u ∈ found.units, u.Regular) : '\r' ∉ text found :=
  Json.not_mem_pretty (plain_value 980 h)

/-! ## 5.  The file -/

/-- **The entries are read back from the file** that the units were saved in. -/
theorem read_of_save {d d' : Disk} {path : Path} (h : ∀ u ∈ found.units, u.Regular)
    (hsave : d.save path (text found) = (d', .ok ())) :
    read d' path = .ok (found.units.map UnitEntry.ofUnit) := by
  obtain ⟨hcontains, htext⟩ := Disk.readText_of_save hsave
  rw [Text.unifyLineEnds_eq_self.2 (not_mem_text h)] at htext
  refine Except.bind_eq_ok.2 ⟨true, hcontains, ?_⟩
  rw [if_pos rfl]
  exact Except.bind_eq_ok.2 ⟨_, htext, parse_text path h⟩

/-- What saving units does to the files. -/
theorem disk_of_save {path : Path} {c c' : Session}
    (h : (save found path).outcome c = (.ok (), c')) :
    c.disk.save path (text found) = (c'.disk, .ok ()) := by
  rw [save, Job.outcome_bind] at h
  cases hsave : c.disk.save path (text found) with
  | mk d r =>
    have hstep : (Job.onDisk fun d => d.save path (text found)).outcome c =
        (r, { c with disk := d }) := by
      change (match c.disk.save path (text found) with | (d, r) => (r, { c with disk := d })) = _
      rw [hsave]
    rw [hstep] at h
    cases r with
    | error f => cases congrArg Prod.fst h
    | ok u =>
      obtain rfl := congrArg Prod.snd h
      rfl

end UnitsFile

/-- The files that were added on the branch that is worked on. -/
def Settings.branchAdded (s : Settings) (c : Session) : List Text :=
  (Git.Changes.parse
    (Git.answer (c.repository (Git.changesArguments s.baseBranch.display)))).added

namespace Options

variable {o : Options} {s : Settings} {c : Session}

/-- The units that a command is given a file of. -/
theorem outcome_units_of_given {t : Text} {es : List UnitEntry}
    (ho : given o.unitsFile = some t) (hread : UnitsFile.read c.disk (.ofText t) = .ok es) :
    (o.units s).outcome c = (.ok (es.map UnitEntry.toUnit), c) := by
  have hstep : ((Job.ofExcept (UnitsFile.read c.disk (.ofText t))).outcome c).1 = .ok es := hread
  have hdisk : (Job.disk.outcome c).1 = .ok c.disk := rfl
  rw [units, ho]
  dsimp only
  rw [Job.outcome_bind_of_ok hdisk]
  exact (Job.outcome_bind_of_ok hstep _).trans rfl

/-- The units of a command that is not given a file: those of the branch. -/
theorem outcome_units_of_not_given {found : Detection} {w : Option Path}
    (ho : given o.unitsFile = none) (hw : s.workspace? = .ok w)
    (hfound : (Detection.fromFiles c.disk s (s.branchAdded c)).outcome.2 = .ok found) :
    ((o.units s).outcome c).1 = .ok found.units := by
  have hstep : ((Job.ofExcept s.workspace?).outcome c).1 = .ok w := hw
  have hbranch : ((Detection.ofBranch s).outcome c).1 = .ok found := by
    rw [Detection.ofBranch, Job.outcome_bind_of_ok hstep]
    exact hfound
  rw [units, ho]
  dsimp only
  rw [Job.outcome_bind_of_ok hbranch]
  rfl

end Options

namespace UnitsFile

/-- What is known of a file that the units found among added files were saved in: it is read as
their entries, in order, and the entries bring the units back.  So a command that is given the file
works on the units that it would have found itself on the branch where these files were added. -/
structure Lossless (d : Disk) (s : Settings) (added : List Text) (found : Detection) (d' : Disk)
    (path : Path) : Prop where
  entries : read d' path = .ok (found.units.map UnitEntry.ofUnit)
  units : (found.units.map UnitEntry.ofUnit).map UnitEntry.toUnit = found.units
  given : ∀ (o : Options) (s' : Settings) (c : Session) (t : Text),
    Options.given o.unitsFile = some t → Path.ofText t = path → c.disk = d' →
      (o.units s').outcome c = (.ok found.units, c)
  notGiven : ∀ (o : Options) (c : Session) (w : Option Path),
    Options.given o.unitsFile = none → s.workspace? = .ok w → c.disk = d →
      s.branchAdded c = added → ((o.units s).outcome c).1 = .ok found.units

/-- **A units file is lossless**: units that were found and saved are read from the file as they
were found. -/
theorem lossless {d : Disk} {s : Settings} {added : List Text} {found : Detection} {path : Path}
    {c c' : Session} (hfound : (Detection.fromFiles d s added).outcome.2 = .ok found)
    (hsave : (save found path).outcome c = (.ok (), c')) :
    Lossless d s added found c'.disk path := by
  have hregular := Detection.regular_of_mem hfound
  have hread := read_of_save hregular (disk_of_save hsave)
  have hunits : (found.units.map UnitEntry.ofUnit).map UnitEntry.toUnit = found.units := by
    rw [List.map_map]
    exact (List.map_congr_left fun u hu => UnitEntry.toUnit_ofUnit (hregular u hu)).trans
      (List.map_id _)
  refine ⟨hread, hunits, fun o s' b t ho ht hb => ?_, fun o b w ho hw hb hadded => ?_⟩
  · rw [← hb, ← ht] at hread
    rw [Options.outcome_units_of_given ho hread, hunits]
  · rw [← hb, ← hadded] at hfound
    exact Options.outcome_units_of_not_given ho hw hfound

/-- The settings of the case that follows. -/
def mixedSettings : Settings :=
  { sectionsRoot := .text "s", entities := .list [.text "e"], pagesRoot := .text "g"
    packageRoot := .text "p", interactorRoot := .text "i", testRoot := .text "t"
    pageInteractorRoot := .text "j", pageTestRoot := .text "u" }

/-- A workspace with a widget and a page. -/
def mixedSession : Session :=
  { disk := { entries := Table.ofList [("/s", .directory), ("/s/e", .directory),
      ("/s/e/W", .directory), ("/s/e/W/index.ts", .file (Text.encode "id: \"w\"\r\nname: \"𝒲\"")),
      ("/s/e/W/Body.tsx", .file (Text.encode "const a = '\\n\t\u2028é😀';\r\n")),
      ("/g", .directory), ("/g/P", .directory),
      ("/g/P/P.tsx", .file (Text.encode "<R path=\"/p\"><Tab label=\"L\" value=\"/v\"/></R>"))] } }

/-- The files that were added to it. -/
def mixedAdded : List Text := ["s/e/W/Body.tsx", "g/P/P.tsx"]

/-- The case of a widget with a declared name and of a page with a route and a tab. -/
theorem lossless_mixed : ∃ found c' u v,
    (Detection.fromFiles mixedSession.disk mixedSettings mixedAdded).outcome.2 = .ok found ∧
    (save found (.ofText "out/units.json")).outcome mixedSession = (.ok (), c') ∧
    u ∈ found.widgets ∧ u.displayName = some "𝒲".toList ∧
    v ∈ found.pages ∧ v.route = some "/p".toList ∧ v.tabs.length = 1 ∧
    Lossless mixedSession.disk mixedSettings mixedAdded found c'.disk
      (.ofText "out/units.json") := by
  have hrun : ((Detection.fromFiles mixedSession.disk mixedSettings
      mixedAdded).outcome.2.toOption.any fun found =>
        found.widgets.any (fun u => u.displayName = some "𝒲".toList) &&
        found.pages.any (fun v => v.route = some "/p".toList ∧ v.tabs.length = 1) &&
        ((save found (.ofText "out/units.json")).outcome mixedSession).1.toOption.any
          fun _ => true) = true := by
    decide +kernel
  obtain ⟨found, hfound, hrun⟩ := Except.exists_of_any hrun
  rw [Bool.and_eq_true, Bool.and_eq_true] at hrun
  obtain ⟨⟨hwidgets, hpages⟩, hsave⟩ := hrun
  obtain ⟨u, hu, hname⟩ := List.any_eq_true.1 hwidgets
  obtain ⟨v, hv, hroute⟩ := List.any_eq_true.1 hpages
  obtain ⟨⟨⟩, hsave, -⟩ := Except.exists_of_any hsave
  obtain ⟨hroute, htabs⟩ := of_decide_eq_true hroute
  exact ⟨found, _, u, v, hfound, Prod.ext hsave rfl, hu, of_decide_eq_true hname, hv, hroute, htabs,
    lossless hfound (Prod.ext hsave rfl)⟩

end UnitsFile

end UiHarness
