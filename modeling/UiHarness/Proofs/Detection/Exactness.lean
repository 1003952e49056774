import UiHarness.Proofs.Detection.Faults

/-!
# Which units are found

A search for units has a result if nothing that it asks for has too long a name, and then the result
is exact: the new units at the places of the files, each taken once, in the order in which the
places first occur.  All that is said of repeated, permuted and further files follows from this.

A search need not have a result.  The sources of a widget are read as soon as its directory has an
entry file, and an import of too long a name in one of them cannot be looked up; then the search
fails, also for the units that were found before.

* `Detection.Search.Exact`: what an exact search gives.
* `Detection.exact_of_search`: a search is exact if it knows where there is a new unit.
* `Detection.new_units_exact`: the searches for widgets and for pages are exact.
-/

namespace UiHarness.Detection

variable {π : Type} [DecidableEq π] {d : Disk} {s : Settings} {σ : Search π}

/-! ## 1.  Exact searches -/

/-- What an exact search gives.  The search is `detect`; its places are those of `σ`, and `isNew`
says whether there is a new unit at a place. -/
structure Search.Exact (σ : Search π) (d : Disk) (s : Settings)
    (detect : List Text → Reporting (List UiUnit)) (isNew : π → Except Fault Bool) : Prop where
  /-- There is a result exactly if each file has a place or none, and it can be said of each place
  whether there is a new unit, with the sources of the unit. -/
  result : ∀ files, (∃ us, (detect files).outcome.2 = .ok us) ↔
    (∀ file ∈ files, ∃ place, σ.place? file = .ok place) ∧
      ∀ p ∈ σ.places files, ∃ new, σ.new? d s p = .ok new
  /-- With a result, it is known of each place whether there is a new unit. -/
  known : ∀ files us, (detect files).outcome.2 = .ok us →
    ∀ p ∈ σ.places files, ∃ new, isNew p = .ok new
  /-- Distinct places are distinct roots. -/
  distinct : ∀ files,
    (σ.places files).eraseDups.map σ.root = ((σ.places files).map σ.root).eraseDups
  /-- The result has the directories of the new units at the distinct places, in their order. -/
  roots : ∀ files us, (detect files).outcome.2 = .ok us → us.map (fun u => .ok u.root) =
    ((σ.places files).eraseDups.filter fun p => (isNew p).toOption = some true).map fun p =>
      directory s (σ.root p)
  /-- No root occurs twice. -/
  once : ∀ files us, (detect files).outcome.2 = .ok us → (us.map UiUnit.root).Nodup
  /-- Files at places of files before them change nothing, whether there is a result or not. -/
  repeated : ∀ xs extra ys, (∀ file ∈ extra, ∃ p ∈ σ.places xs, σ.place? file = .ok (some p)) →
    detect (xs ++ (extra ++ ys)) = detect (xs ++ ys)
  /-- Another order of the files is another order of the units. -/
  permuted : ∀ xs ys us, xs.Perm ys → (detect xs).outcome.2 = .ok us →
    ∃ vs, (detect ys).outcome.2 = .ok vs ∧ us.Perm vs
  /-- The units for some files and others are those for the first ones, and those for the others
  that have other roots. -/
  appended : ∀ xs ys ws, (detect (xs ++ ys)).outcome.2 = .ok ws ↔
    ∃ us vs, (detect xs).outcome.2 = .ok us ∧ (detect ys).outcome.2 = .ok vs ∧
      ws = us ++ vs.filter fun v => v.root ∉ us.map UiUnit.root

/-- Places of files and their roots first occur together. -/
theorem map_root_eraseDups (hσ : σ.Faithful) (files : List Text) :
    (σ.places files).eraseDups.map σ.root = ((σ.places files).map σ.root).eraseDups := by
  refine List.map_eraseDups fun p hp q hq => ?_
  obtain ⟨f, -, hf⟩ := σ.mem_places.1 hp
  obtain ⟨g, -, hg⟩ := σ.mem_places.1 hq
  exact hσ f g p q hf hg

/-- **A search is exact** if it knows where there is a new unit, and in which directory. -/
theorem exact_of_search (hσ : σ.Faithful) (hr : σ.Rooted d s)
    {detect : List Text → Reporting (List UiUnit)}
    (hrun : ∀ files, detect files = σ.run d s [] files) {isNew : π → Except Fault Bool}
    (hnew : ∀ p new, σ.new? d s p = .ok new →
      isNew p = .ok new.isSome ∧ ∀ u ∈ new, directory s (σ.root p) = .ok u.root) :
    σ.Exact d s detect isNew := by
  have hresult : ∀ files, (detect files).outcome.2 = σ.find d s [] files := fun files => by
    rw [hrun, (Search.ends_run σ d s [] files).outcome]
  constructor
  case result =>
    intro files
    rw [hresult]
    constructor
    · rintro ⟨us, h⟩
      obtain ⟨hfiles, hplaces, -⟩ := (Search.find_eq_ok hσ).1 h
      exact ⟨hfiles, hplaces⟩
    · exact fun ⟨hfiles, hplaces⟩ => ⟨_, (Search.find_eq_ok hσ).2 ⟨hfiles, hplaces, rfl⟩⟩
  case known =>
    intro files us h p hp
    rw [hresult] at h
    obtain ⟨new, hp⟩ := ((Search.find_eq_ok hσ).1 h).2.1 p hp
    exact ⟨_, (hnew p new hp).1⟩
  case distinct => exact map_root_eraseDups hσ
  case roots =>
    intro files us h
    rw [hresult] at h
    obtain ⟨-, hplaces, rfl⟩ := (Search.find_eq_ok hσ).1 h
    rw [List.map_filterMap, ← List.filterMap_eq_map, List.filterMap_filter]
    refine List.filterMap_congr fun p hp => ?_
    obtain ⟨new, hp⟩ := hplaces p (List.mem_eraseDups.1 hp)
    obtain ⟨his, hdirectory⟩ := hnew p new hp
    have hunit : σ.newUnit d s p = new := by rw [Search.newUnit, hp]; rfl
    rw [hunit, his]
    cases new with
    | none => rfl
    | some u =>
      rw [Function.comp_apply, hdirectory u rfl]
      rfl
  case once =>
    intro files us h
    rw [hresult] at h
    exact Search.nodup_of_find hσ hr h
  case repeated =>
    intro xs extra ys h
    rw [hrun, hrun]
    refine Search.run_seen fun file hf => ?_
    obtain ⟨p, hp, hplace⟩ := h file hf
    exact ⟨p, hplace, .inr hp⟩
  case permuted =>
    intro xs ys us hperm h
    rw [hresult] at h ⊢
    exact Search.find_perm hσ hperm h
  case appended =>
    intro xs ys ws
    rw [hresult, hresult, hresult]
    exact Search.find_append hσ hr

/-! ## 2.  Widgets and pages -/

/-- **Which units are found**: the searches for widgets and for pages are exact, and if the settings
are of the right kinds, they have a result unless a name is too long. -/
theorem new_units_exact (d : Disk) (s : Settings) :
    (widgetSearch d s).Exact d s (widgetsFrom d s []) (isNewWidget d s) ∧
      (pageSearch d s).Exact d s (pagesFrom d s []) (isNewPage d s) ∧
      (s.Fits → ∀ files f, (widgetsFrom d s [] files).outcome.2 = .error f ∨
        (pagesFrom d s [] files).outcome.2 = .error f → f.IsTooLong) := by
  refine ⟨?_, ?_, ?_⟩
  · exact exact_of_search (faithful_widgetSearch d s) (rooted_widgetSearch d s)
      (widgetsFrom_eq d s []) fun p new => of_new?_widgetSearch
  · exact exact_of_search (faithful_pageSearch d s) (rooted_pageSearch d s)
      (pagesFrom_eq d s []) fun p new => of_new?_pageSearch
  · rintro hs files f (h | h)
    · exact failsOnly_widgets hs d files f h
    · exact failsOnly_pages hs d files f h

/-- A workspace with a widget that has an entry file and no generated files.  Its body has an import
of a name of 253 characters, too long with the ending of a source file. -/
def longImportDisk : Disk :=
  { entries := Table.ofList [("/s", .directory), ("/s/e", .directory), ("/s/e/W", .directory),
      ("/s/e/W/index.ts", .file (Text.encode "")), ("/s/e/W/Body.tsx", .file (Text.encode
        ("import X from './".toList ++ List.replicate 253 'n' ++ ['\''])))] }

/-- Settings for that workspace. -/
def longImportSettings : Settings :=
  { sectionsRoot := .text "s", entities := .list [.text "e"], packageRoot := .text "p"
    interactorRoot := .text "i", testRoot := .text "t" }

/-- **The search fails although there is a new widget**: at the only place there is one, by its
entry file and the generated files, but the name of the import is too long. -/
theorem new_units_of_longImport :
    widgetPlace? longImportSettings "s/e/W/Body.tsx" = .ok (some ("e", "W", "s/e/W")) ∧
    isNewWidget longImportDisk longImportSettings ("e", "W", "s/e/W") = .ok true ∧
    ∃ f, (widgetsFrom longImportDisk longImportSettings [] ["s/e/W/Body.tsx"]).outcome.2 =
      .error f ∧ f.IsTooLong := by
  have hfits : longImportSettings.Fits :=
    { workspace := ⟨none, rfl⟩, package := ⟨_, rfl⟩, interactors := ⟨_, rfl⟩, tests := ⟨_, rfl⟩
      pageInteractors := ⟨_, rfl⟩, pageTests := ⟨_, rfl⟩, sections := ⟨_, rfl⟩, pages := ⟨_, rfl⟩
      entities := fun _ => ⟨_, rfl⟩ }
  have hnone : (widgetsFrom longImportDisk longImportSettings []
      ["s/e/W/Body.tsx"]).outcome.2.toOption.isNone = true := by decide +kernel
  refine ⟨rfl, rfl, ?_⟩
  cases h : (widgetsFrom longImportDisk longImportSettings [] ["s/e/W/Body.tsx"]).outcome.2 with
  | ok us =>
    rw [h] at hnone
    cases hnone
  | error f => exact ⟨f, rfl, (new_units_exact _ _).2.2 hfits _ f (.inl h)⟩

end UiHarness.Detection
