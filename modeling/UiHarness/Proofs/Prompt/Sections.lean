import Mathlib.Data.List.Nodup
import UiHarness.Prompt.Section
import UiHarness.Proofs.Imports.Buckets
import UiHarness.Proofs.Table

/-!
# The sources in a prompt for a widget

A prompt for a widget shows its sources in four groups.  Each of the groups picks its sources by a
test of its own: the main files are looked up by their names, and the others are what passes one of
three tests on their keys.  Nothing in the code says that these tests fit together.  They do, unless
a source from the shared UI package has a key that looks like that of a query: it would be shown
twice.  Components of the package have names without dots, so there is none.

* `Prompt.Shelf`: the groups, with `Shelf.of`, one test for all of them.
* `Prompt.shown`: the sources in the order in which they are shown.
* `Prompt.widgetSources_eq`: the sources are shown shelf by shelf.
* `Prompt.perm_shown`: each source is on one shelf.
* `Prompt.ShownOnce`, `Prompt.shown_once`: all that is said of the sources in a prompt.
-/

namespace UiHarness.Prompt

/-! ## 1.  Shelves -/

/-- A group of sources in a prompt. -/
inductive Shelf
  | main
  | nearby
  | fromPackage
  | queries
  deriving DecidableEq, Repr

namespace Shelf

/-- The shelves, in order. -/
def order : List Shelf := [main, nearby, fromPackage, queries]

/-- The shelf of a source, by its key. -/
def of (key : Text) : Shelf :=
  if key ∈ Source.mainFiles then main
  else if isPackageSource key then fromPackage
  else if Bucket.isQuery key then queries
  else nearby

/-- What stands above a shelf that is not empty; the main files have no heading. -/
def heading : Shelf → Text
  | main => []
  | nearby => "### Imported Local Components\n\n"
  | fromPackage => "### UI Package Components\n\n"
  | queries => "### GraphQL Queries\n\n"

/-- What stands above a source. -/
def title (key : Text) : Shelf → Text
  | main => "### " ++ key ++ ".tsx"
  | nearby => "#### " ++ key ++ ".tsx"
  | fromPackage => "#### " ++ key.drop packageMark.length
  | queries => "#### " ++ key

/-- The language of a source. -/
def language : Shelf → Text
  | queries => "graphql"
  | _ => "typescript"

/-- A source with its title, in a fenced block. -/
def sectionOf (s : Shelf) (e : Text × Text) : Text :=
  s.title e.1 ++ "\n```" ++ s.language ++ "\n" ++ e.2 ++ "\n```\n\n"

/-- A shelf with some sources. -/
def text (s : Shelf) (sources : List (Text × Text)) : Text :=
  (if sources = [] then [] else s.heading) ++ sources.flatMap s.sectionOf

/-- The sources of a unit on a shelf: the main files in their own order, the others in that of the
unit. -/
def sources (u : UiUnit) : Shelf → List (Text × Text)
  | main => Source.mainFiles.filterMap fun name => (u.sources.get? name).map fun t => (name, t)
  | s => u.sources.entries.filter fun e => of e.1 = s

theorem mem_order (s : Shelf) : s ∈ order := by
  cases s <;> decide

variable {key : Text}

/-- The main files are neither queries nor from the package. -/
theorem plain_of_mem_mainFiles : ∀ key ∈ Source.mainFiles,
    isPackageSource key = false ∧ Bucket.isQuery key = false := by
  decide

theorem of_eq_main_iff : of key = main ↔ key ∈ Source.mainFiles := by
  rw [of]
  by_cases hmain : key ∈ Source.mainFiles
  · simp [hmain]
  · cases isPackageSource key <;> cases Bucket.isQuery key <;> simp [hmain]

/-- The test for the sources of the package picks what is on their shelf. -/
theorem of_eq_fromPackage_iff : of key = fromPackage ↔ isPackageSource key = true := by
  rw [of]
  by_cases hmain : key ∈ Source.mainFiles
  · simp [hmain, (plain_of_mem_mainFiles key hmain).1]
  · cases isPackageSource key <;> cases Bucket.isQuery key <;> simp [hmain]

/-- The test for queries does so but for sources of the package. -/
theorem of_eq_queries_iff :
    of key = queries ↔ isPackageSource key = false ∧ Bucket.isQuery key = true := by
  rw [of]
  by_cases hmain : key ∈ Source.mainFiles
  · simp [hmain, (plain_of_mem_mainFiles key hmain).2]
  · cases isPackageSource key <;> cases Bucket.isQuery key <;> simp [hmain]

/-- What passes none of the tests is nearby. -/
theorem of_eq_nearby_iff : of key = nearby ↔
    key ∉ Source.mainFiles ∧ Bucket.isQuery key = false ∧ isPackageSource key = false := by
  rw [of]
  by_cases hmain : key ∈ Source.mainFiles
  · simp [hmain]
  · cases isPackageSource key <;> cases Bucket.isQuery key <;> simp [hmain]

end Shelf

/-! ## 2.  The sources, shelf by shelf -/

/-- The sources of a unit in the order in which they are shown. -/
def shown (u : UiUnit) : List (Text × Text) := Shelf.order.flatMap (Shelf.sources u)

/-- A main file that is there. -/
theorem mem_sources_main {u : UiUnit} {e : Text × Text} :
    e ∈ Shelf.sources u .main ↔ e ∈ u.sources.entries ∧ e.1 ∈ Source.mainFiles := by
  rw [Shelf.sources, List.mem_filterMap]
  constructor
  · rintro ⟨name, hname, h⟩
    obtain ⟨t, ht, rfl⟩ := Option.map_eq_some_iff.1 h
    exact ⟨Table.get?_eq_some.1 ht, hname⟩
  · rintro ⟨he, hname⟩
    exact ⟨e.1, hname, by rw [Table.get?_of_mem he, Option.map_some]⟩

/-- The names of the main files that are there. -/
theorem names_main (u : UiUnit) : (Shelf.sources u .main).map Prod.fst =
    Source.mainFiles.filter fun name => name ∈ u.sources.keys := by
  rw [Shelf.sources]
  induction Source.mainFiles with
  | nil => rfl
  | cons name names ih =>
    have hcontains : (u.sources.get? name).isSome = true ↔ name ∈ u.sources.keys :=
      u.sources.contains_iff name
    rw [List.filterMap_cons, List.filter_cons]
    cases h : u.sources.get? name with
    | none =>
      rw [h] at hcontains
      simp [← hcontains, ih]
    | some t =>
      rw [h] at hcontains
      simp [← hcontains, ih]

/-- On the first shelf stand the main files that are there, once each. -/
theorem perm_sources_main (u : UiUnit) : (Shelf.sources u .main).Perm
    (u.sources.entries.filter fun e => Shelf.of e.1 = .main) := by
  have hnodup : (Shelf.sources u .main).Nodup := by
    refine List.Nodup.of_map Prod.fst ?_
    rw [names_main]
    exact List.Nodup.filter _ (by decide)
  have hentries : u.sources.entries.Nodup := List.Nodup.of_map Prod.fst u.sources.nodup
  refine (List.perm_ext_iff_of_nodup hnodup (hentries.filter _)).2 fun e => ?_
  rw [mem_sources_main, List.mem_filter, decide_eq_true_eq, Shelf.of_eq_main_iff]

/-- **Each source is on one shelf.** -/
theorem perm_shown (u : UiUnit) : (shown u).Perm u.sources.entries := by
  have hnodup : Shelf.order.Nodup := by decide
  have hgroups := perm_flatMap_filter (fun e : Text × Text => Shelf.of e.1) hnodup
    fun e (_ : e ∈ u.sources.entries) => Shelf.mem_order _
  refine List.Perm.trans ?_ hgroups
  exact (perm_sources_main u).append_right _

/-- A source below its title. -/
theorem headed_eq (s : Shelf) (e : Text × Text) :
    headed (s.title e.1) s.language e.2 = s.sectionOf e := by
  simp only [headed, fenced, Shelf.sectionOf, List.append_assoc]
  rfl

/-- A group of sources is a shelf. -/
theorem group_eq (s : Shelf) (heading : Text) (h : s.heading = heading ++ "\n\n")
    (sources : List (Text × Text)) :
    group heading sources (fun e => headed (s.title e.1) s.language e.2) = s.text sources := by
  rw [funext (headed_eq s)]
  cases sources with
  | nil => rfl
  | cons e es =>
    rw [group, Shelf.text, h]
    rfl

/-- The main files are a shelf without a heading. -/
theorem flatMap_headed_eq (sources : List (Text × Text)) :
    (sources.flatMap fun e => headed (Shelf.main.title e.1) Shelf.main.language e.2) =
      Shelf.main.text sources := by
  rw [funext (headed_eq .main), Shelf.text]
  cases sources <;> rfl

/-- **The sources are shown shelf by shelf**, if no key from the package looks like that of a
query. -/
theorem widgetSources_eq {u : UiUnit}
    (h : ∀ key ∈ u.sources.keys, isPackageSource key = true → Bucket.isQuery key = false) :
    widgetSources u = Shelf.order.flatMap fun s => s.text (Shelf.sources u s) := by
  have hnearby : (u.sources.entries.filter fun e => e.1 ∉ Source.mainFiles &&
      !Bucket.isQuery e.1 && !isPackageSource e.1) = Shelf.sources u .nearby := by
    refine List.filter_congr fun e _ => ?_
    rw [Bool.eq_iff_iff, decide_eq_true_eq, Shelf.of_eq_nearby_iff]
    simp [and_assoc]
  have hpackage : (u.sources.entries.filter fun e => isPackageSource e.1) =
      Shelf.sources u .fromPackage := by
    refine List.filter_congr fun e _ => ?_
    rw [Bool.eq_iff_iff, decide_eq_true_eq, Shelf.of_eq_fromPackage_iff]
  have hqueries : (u.sources.entries.filter fun e => Bucket.isQuery e.1) =
      Shelf.sources u .queries := by
    refine List.filter_congr fun e he => ?_
    rw [Bool.eq_iff_iff, decide_eq_true_eq, Shelf.of_eq_queries_iff]
    refine (and_iff_right_of_imp fun hquery => ?_).symm
    by_contra hown
    rw [h e.1 (List.mem_map_of_mem he) (by simpa using hown)] at hquery
    cases hquery
  have horder : Shelf.order.flatMap (fun s => s.text (Shelf.sources u s)) =
      Shelf.main.text (Shelf.sources u .main) ++ Shelf.nearby.text (Shelf.sources u .nearby) ++
        Shelf.fromPackage.text (Shelf.sources u .fromPackage) ++
          Shelf.queries.text (Shelf.sources u .queries) := by
    simp [Shelf.order]
  unfold widgetSources
  dsimp only
  rw [hnearby, hpackage, hqueries, horder, ← flatMap_headed_eq,
    ← group_eq .nearby "### Imported Local Components" rfl,
    ← group_eq .fromPackage "### UI Package Components" rfl,
    ← group_eq .queries "### GraphQL Queries" rfl]
  rfl

/-! ## 3.  What is shown -/

/-- What is known of the sources in a prompt. -/
structure ShownOnce (u : UiUnit) : Prop where
  /-- The sources are shown shelf by shelf, each as its section; a shelf that is not empty has its
  heading. -/
  text : widgetSources u = Shelf.order.flatMap fun s => s.text (Shelf.sources u s)
  /-- Each source is shown once, with the text that it has. -/
  each : (shown u).Perm u.sources.entries
  /-- No key is shown twice, and none is left out. -/
  keys : ((shown u).map Prod.fst).Nodup ∧ ∀ key, key ∈ (shown u).map Prod.fst ↔ key ∈ u.sources.keys
  /-- On the first shelf are those of the main files that are there, in their order. -/
  main : (Shelf.sources u .main).map Prod.fst =
    (["index", "Body", "Summary", "Description"] : List Text).filter fun name =>
      name ∈ u.sources.keys
  /-- On the others are the sources of each kind, in their order in the unit. -/
  order : ∀ s, s ≠ .main →
    Shelf.sources u s = u.sources.entries.filter fun e => Shelf.of e.1 = s
  /-- Which shelf a key belongs to. -/
  shelf : ∀ key ∈ u.sources.keys,
    (Shelf.of key = .main ↔ key ∈ Source.mainFiles) ∧
      (Shelf.of key = .fromPackage ↔ packageMark <+: key) ∧
        (Shelf.of key = .queries ↔ ".gql".toList <:+ key)

/-- A key of the package does not look like that of a query, if the names behind its mark have no
dots. -/
theorem isQuery_of_package {u : UiUnit}
    (h : ∀ name, packageMark ++ name ∈ u.sources.keys → '.' ∉ name) {key : Text}
    (hkey : key ∈ u.sources.keys) (hown : isPackageSource key = true) :
    Bucket.isQuery key = false := by
  obtain ⟨name, rfl⟩ := List.isPrefixOf_iff_prefix.1 hown
  rw [← Bool.not_eq_true]
  intro hquery
  have hsuffix : ".gql".toList <:+ packageMark ++ name := List.isSuffixOf_iff_suffix.1 hquery
  rcases List.mem_append.1 (hsuffix.subset (by decide : '.' ∈ ".gql".toList)) with hdot | hdot
  · exact absurd hdot (by decide)
  · exact h name hkey hdot

/-- **Each source of a widget is shown once**, if the names of components from the package have no
dots. -/
theorem shown_once {u : UiUnit} (h : ∀ name, packageMark ++ name ∈ u.sources.keys → '.' ∉ name) :
    ShownOnce u where
  text := widgetSources_eq fun key hkey hown => isQuery_of_package h hkey hown
  each := perm_shown u
  keys := by
    have hperm := (perm_shown u).map Prod.fst
    exact ⟨hperm.nodup_iff.2 u.sources.nodup, fun key => hperm.mem_iff⟩
  main := names_main u
  order s hs := by
    cases s with
    | main => exact absurd rfl hs
    | nearby => rfl
    | fromPackage => rfl
    | queries => rfl
  shelf key hkey := by
    have hown : isPackageSource key = true ↔ packageMark <+: key := List.isPrefixOf_iff_prefix
    have hquery : Bucket.isQuery key = true ↔ ".gql".toList <:+ key := List.isSuffixOf_iff_suffix
    refine ⟨Shelf.of_eq_main_iff, Shelf.of_eq_fromPackage_iff.trans hown,
      Shelf.of_eq_queries_iff.trans ?_⟩
    rw [← hquery]
    refine and_iff_right_of_imp fun h' => ?_
    by_contra hpackage
    rw [isQuery_of_package h hkey (by simpa using hpackage)] at h'
    cases h'

/-- A widget with sources on all shelves. -/
def shelvedWidget : UiUnit :=
  { kind := .widget, name := "W", category := "e", root := "w", declaredId := none
    displayName := none
    sources := .ofList [("ui/Link", "l"), ("Rows", "r"), ("Body", "b"), ("W.gql", "q"),
      ("index", "i")]
    paths := .ofList [("ui/Link", "u/Link.tsx"), ("Rows", "w/Rows.tsx"), ("Body", "w/Body.tsx"),
      ("W.gql", "w/W.gql"), ("index", "w/index.ts")]
    route := none, tabs := []
    located := by decide }

/-- The case of a widget with a component from the package, whose sources are shown in another
order than they have in the unit. -/
theorem shown_once_shelved :
    (∀ name, packageMark ++ name ∈ shelvedWidget.sources.keys → '.' ∉ name) ∧
      ShownOnce shelvedWidget ∧
        (shown shelvedWidget).map Prod.fst = ["index", "Body", "Rows", "ui/Link", "W.gql"] := by
  have hkeys : ∀ key ∈ shelvedWidget.sources.keys, isPackageSource key = true →
      '.' ∉ key.drop packageMark.length := by
    decide
  have hnames : ∀ name, packageMark ++ name ∈ shelvedWidget.sources.keys → '.' ∉ name := by
    intro name hname
    have hdot := hkeys _ hname (List.isPrefixOf_iff_prefix.2 (List.prefix_append _ _))
    rwa [List.drop_left] at hdot
  exact ⟨hnames, shown_once hnames, by decide⟩

end UiHarness.Prompt
