import UiHarness.Hook.Injection
import UiHarness.Proofs.Imports.Buckets
import UiHarness.Proofs.Steps
import UiHarness.Proofs.Table

/-!
# The components that a unit knows

What the sources of a unit import from the UI library is put together in the order of the sources,
and of several bindings of one name the first one counts.  Only then the bindings of whole modules
are dropped.  So a component is known in all sources if one of them imports it, unless a source that
comes before binds a whole module under the same name.

* `Bucket.find?_filter_firstOfEach`: looking for a name among first bindings.
* `Hook.libraryBindings`: what the sources of a unit import from the UI library.
* `Hook.policiesOf_eq`, `Hook.get?_policiesOf`: the policies of a unit, made from these bindings.
* `Hook.recognised`: which names have policies.
-/

namespace UiHarness

/-! ## 1.  Bindings and buckets -/

theorem Binding.mem_ofSource_iff {path code : Text} {b : Binding} :
    b ∈ ofSource path code ↔
      ∃ nodes, Syntax.read path code = .ok nodes ∧ b ∈ Syntax.Node.bindingsOf nodes := by
  unfold ofSource
  cases Syntax.read path code with
  | error e => exact ⟨fun h => (by cases h), fun ⟨nodes, h, _⟩ => (by cases h)⟩
  | ok nodes => exact ⟨fun h => ⟨nodes, rfl, h⟩, fun ⟨nodes', h, hb⟩ => Except.ok.inj h ▸ hb⟩

namespace Bucket

/-- **Looking for a name among first bindings** that pass a test finds the first binding of the name
of all, or nothing if that one does not pass. -/
theorem find?_filter_firstOfEach (p : Binding → Bool) {seen : List Text} {name : Text}
    (h : name ∉ seen) (l : List Binding) :
    ((firstOfEach seen l).filter p).find? (·.localName = name) =
      (l.find? (·.localName = name)).filter p := by
  induction l generalizing seen with
  | nil => rfl
  | cons b l ih =>
    rw [firstOfEach, List.find?_cons]
    by_cases hname : b.localName = name
    · have hlater : ((firstOfEach (b.localName :: seen) l).filter p).find? (·.localName = name) =
          none := by
        refine List.find?_eq_none.2 fun c hc hcname => ?_
        have hnot := not_seen_of_mem_firstOfEach (List.mem_filter.1 hc).1
        rw [of_decide_eq_true hcname, hname] at hnot
        exact hnot (List.mem_cons_self ..)
      rw [if_neg (hname ▸ h), List.filter_cons, decide_eq_true hname, Option.filter_some]
      split
      · rw [List.find?_cons, decide_eq_true hname]
      · exact hlater
    · rw [decide_eq_false hname]
      split
      · exact ih h
      · have hnot : name ∉ b.localName :: seen := by
          rw [List.mem_cons, not_or]
          exact ⟨fun heq => hname heq.symm, h⟩
        rw [List.filter_cons]
        split
        · rw [List.find?_cons, decide_eq_false hname]
          exact ih hnot
        · exact ih hnot

/-- The first binding of a name is found as such. -/
theorem find?_firstOfEach (l : List Binding) (name : Text) :
    (firstOfEach [] l).find? (·.localName = name) = l.find? (·.localName = name) := by
  have h := find?_filter_firstOfEach (fun _ => true) (List.not_mem_nil (a := name)) l
  have hall : ∀ o : Option Binding, o.filter (fun _ => true) = o := by
    intro o
    cases o with
    | none => rfl
    | some b => rfl
  rwa [hall, List.filter_eq_self.2 fun _ _ => rfl] at h

end Bucket

namespace Hook

open Syntax

/-! ## 2.  What a unit imports from the UI library -/

/-- What the sources of a unit import from the UI library, in order.  Sources from the shared
package and queries do not count, and a source that cannot be read imports nothing. -/
def libraryBindings (u : UiUnit) : List Binding :=
  (u.sources.entries.filter fun e => !Bucket.isQuery e.1 && !isPackageSource e.1).flatMap fun e =>
    (Binding.ofSource ((u.paths.get? e.1).getD e.1) e.2).filter fun b =>
      Origin.isLibrary Origin.libraryModules b.source

/-- A source of a unit imports a binding from the UI library. -/
structure Imports (u : UiUnit) (key : Text) (b : Binding) : Prop where
  own : isPackageSource key = false
  isCode : Bucket.isQuery key = false
  bound : ∃ code path nodes, u.sources.get? key = some code ∧ u.paths.get? key = some path ∧
    Syntax.read path code = .ok nodes ∧ b ∈ Node.bindingsOf nodes
  fromLibrary : Origin.isLibrary Origin.libraryModules b.source = true

variable {u : UiUnit} {name : Text}

theorem mem_libraryBindings_iff {b : Binding} :
    b ∈ libraryBindings u ↔ ∃ key, Imports u key b := by
  rw [libraryBindings, List.mem_flatMap]
  simp only [List.mem_filter, Binding.mem_ofSource_iff, Bool.and_eq_true, Bool.not_eq_true']
  constructor
  · rintro ⟨⟨key, code⟩, ⟨he, hquery, hown⟩, ⟨nodes, hread, hb⟩, hlibrary⟩
    obtain ⟨path, hpath⟩ := Option.isSome_iff_exists.1 (u.located key (List.mem_map_of_mem he))
    dsimp only at hquery hown hread
    rw [hpath, Option.getD_some] at hread
    exact ⟨key, hown, hquery, ⟨code, path, nodes, Table.get?_eq_some.2 he, hpath, hread, hb⟩,
      hlibrary⟩
  · rintro ⟨key, hown, hquery, ⟨code, path, nodes, hcode, hpath, hread, hb⟩, hlibrary⟩
    refine ⟨(key, code), ⟨Table.get?_eq_some.1 hcode, hquery, hown⟩, ⟨nodes, ?_, hb⟩, hlibrary⟩
    rw [hpath, Option.getD_some, hread]

/-- What is imported by two sources. -/
theorem libraryBindings_pair {first second : Text × Text} {path path' : Text} {b b' : Binding}
    (hentries : u.sources.entries.filter (fun e => !Bucket.isQuery e.1 && !isPackageSource e.1) =
      [first, second])
    (hpath : u.paths.get? first.1 = some path) (hpath' : u.paths.get? second.1 = some path')
    (hfirst : Binding.ofSource path first.2 = [b])
    (hsecond : Binding.ofSource path' second.2 = [b'])
    (hb : Origin.isLibrary Origin.libraryModules b.source = true)
    (hb' : Origin.isLibrary Origin.libraryModules b'.source = true) :
    libraryBindings u = [b, b'] := by
  rw [libraryBindings, hentries, List.flatMap_cons, List.flatMap_cons, List.flatMap_nil, hpath,
    hpath', Option.getD_some, Option.getD_some, hfirst, hsecond]
  simp [hb, hb']

/-- **The policies of a unit** are those of what it imports from the UI library. -/
theorem policiesOf_eq (u : UiUnit) : policiesOf u =
    Policy.table libraryOverrides { ui := Bucket.firstOfEach [] (libraryBindings u) } := by
  have hown : (u.sources.filter fun key => !isPackageSource key).entries.filter
      (!Bucket.isQuery ·.1) =
        u.sources.entries.filter fun e => !Bucket.isQuery e.1 && !isPackageSource e.1 :=
    List.filter_filter
  have hbindings :
      (Bucket.ofSources (u.sources.filter fun key => !isPackageSource key) u.paths).ui =
        Bucket.firstOfEach [] (libraryBindings u) := by
    rw [Bucket.ofSources_eq, Bucket.merge, Gathering.filesOf, hown, List.flatMap_map,
      libraryBindings]
    simp only [Bucket.ofFile, Bucket.ui_ofBindings]
  have htable : ∀ b b' : Bucket, b.ui = b'.ui →
      Policy.table libraryOverrides b = Policy.table libraryOverrides b' := by
    intro b b' hb
    rw [Policy.table, Policy.table, components, components, hb]
  exact htable _ _ hbindings

/-- **The policy for a name** is made from the first binding of the name, unless that one binds a
whole module. -/
theorem get?_policiesOf (u : UiUnit) (name : Text) : (policiesOf u).get? name =
    (((libraryBindings u).find? (·.localName = name)).filter fun b => !b.isNamespace).map
      (Policy.ofBinding libraryOverrides) := by
  have hnodup : ∀ b : Bucket, ((components b).map (·.localName)).Nodup := fun b =>
    Bucket.nodup_firstOfEach [] _
  rw [policiesOf_eq, Policy.table, Table.get?_ofList (hnodup _), components,
    Bucket.find?_firstOfEach, Bucket.find?_filter_firstOfEach _ List.not_mem_nil]

/-! ## 3.  Which names are recognised -/

/-- What is known of a name in the sources of a unit. -/
structure Recognised (u : UiUnit) (name : Text) : Prop where
  /-- The policy is made from the first binding of the name, in the order of the sources, unless
  that one binds a whole module. -/
  policy : (policiesOf u).get? name =
    (((libraryBindings u).find? (·.localName = name)).filter fun b => !b.isNamespace).map
      (Policy.ofBinding libraryOverrides)
  bindings : ∀ b, b ∈ libraryBindings u ↔ ∃ key, Imports u key b
  /-- A name is recognised exactly if its first binding, in the order of the sources, does not bind a
  whole module. -/
  known : (policiesOf u).contains name = true ↔ ∃ before b after,
    libraryBindings u = before ++ b :: after ∧ b.localName = name ∧ b.isNamespace = false ∧
      ∀ c ∈ before, c.localName ≠ name
  /-- Only names of components that are imported are recognised. -/
  imported : (policiesOf u).contains name = true →
    ∃ key b, Imports u key b ∧ b.localName = name ∧ b.isNamespace = false
  /-- Unless the name stands for a module in some source, it is recognised if it is imported, in
  whatever order the sources come. -/
  unhidden : (∀ key b, Imports u key b → b.localName = name → b.isNamespace = false) →
    ∀ u' : UiUnit, (∀ key, u'.sources.get? key = u.sources.get? key) →
      (∀ key, u'.paths.get? key = u.paths.get? key) →
        ((policiesOf u').contains name = true ↔ ∃ key b, Imports u key b ∧ b.localName = name)

theorem contains_policiesOf_iff (u : UiUnit) (name : Text) :
    (policiesOf u).contains name = true ↔
      ∃ b, (libraryBindings u).find? (·.localName = name) = some b ∧ b.isNamespace = false := by
  rw [Table.contains, get?_policiesOf, Option.isSome_map, Option.isSome_iff_exists]
  simp only [Option.filter_eq_some_iff, Bool.not_eq_true']

/-- What is found of a name is imported under it. -/
theorem imports_of_find? {b : Binding}
    (h : (libraryBindings u).find? (·.localName = name) = some b) :
    (∃ key, Imports u key b) ∧ b.localName = name := by
  have hname : decide (b.localName = name) = true :=
    List.find?_some (p := fun b : Binding => decide (b.localName = name)) h
  exact ⟨mem_libraryBindings_iff.1 (List.mem_of_find?_eq_some h), of_decide_eq_true hname⟩

/-- The order of the sources does not matter for what they import. -/
theorem Imports.congr {u' : UiUnit} (hsources : ∀ key, u'.sources.get? key = u.sources.get? key)
    (hpaths : ∀ key, u'.paths.get? key = u.paths.get? key) {key : Text} {b : Binding} :
    Imports u' key b ↔ Imports u key b := by
  constructor
  · rintro ⟨hown, hcode, hbound, hlibrary⟩
    rw [hsources, hpaths] at hbound
    exact ⟨hown, hcode, hbound, hlibrary⟩
  · rintro ⟨hown, hcode, hbound, hlibrary⟩
    rw [← hsources, ← hpaths] at hbound
    exact ⟨hown, hcode, hbound, hlibrary⟩

/-- If no source binds a module under a name, the name is recognised if it is imported. -/
theorem contains_iff_of_unhidden
    (h : ∀ key b, Imports u key b → b.localName = name → b.isNamespace = false) :
    (policiesOf u).contains name = true ↔ ∃ key b, Imports u key b ∧ b.localName = name := by
  rw [contains_policiesOf_iff]
  constructor
  · rintro ⟨b, hfind, -⟩
    obtain ⟨⟨key, hb⟩, hname⟩ := imports_of_find? hfind
    exact ⟨key, b, hb, hname⟩
  · rintro ⟨key, b, hb, hname⟩
    have hsome : ((libraryBindings u).find? (·.localName = name)).isSome = true := by
      rw [List.find?_isSome]
      exact ⟨b, mem_libraryBindings_iff.2 ⟨key, hb⟩, decide_eq_true hname⟩
    obtain ⟨first, hfind⟩ := Option.isSome_iff_exists.1 hsome
    obtain ⟨⟨key', hfirst⟩, hname'⟩ := imports_of_find? hfind
    exact ⟨first, hfind, h key' first hfirst hname'⟩

/-- **What is recognised in the sources of a unit**, for every unit and every name. -/
theorem recognised (u : UiUnit) (name : Text) : Recognised u name := by
  refine ⟨get?_policiesOf u name, fun b => mem_libraryBindings_iff, ?_, fun hknown => ?_,
    fun hunhidden u' hsources hpaths => ?_⟩
  · rw [contains_policiesOf_iff]
    simp only [List.find?_eq_some_iff_append, decide_eq_true_eq, Bool.not_eq_true',
      decide_eq_false_iff_not]
    constructor
    · rintro ⟨b, ⟨hname, before, after, hsplit, hbefore⟩, hns⟩
      exact ⟨before, b, after, hsplit, hname, hns, hbefore⟩
    · rintro ⟨before, b, after, hsplit, hname, hns, hbefore⟩
      exact ⟨b, ⟨hname, before, after, hsplit, hbefore⟩, hns⟩
  · obtain ⟨b, hfind, hns⟩ := (contains_policiesOf_iff u name).1 hknown
    obtain ⟨⟨key, hb⟩, hname⟩ := imports_of_find? hfind
    exact ⟨key, b, hb, hname, hns⟩
  · have hsame : ∀ key b, Imports u' key b ↔ Imports u key b := fun key b =>
      Imports.congr hsources hpaths
    rw [contains_iff_of_unhidden fun key b hb => hunhidden key b ((hsame key b).1 hb)]
    simp only [hsame]

/-- A unit of the given sources. -/
def linkUnit (sources : Table Text) : UiUnit := {
  kind := .widget
  name := "Foo"
  category := "target"
  root := "foo"
  declaredId := none
  displayName := none
  sources
  paths := sources.mapKeyed fun key _ => key ++ ".tsx".toList
  route := none
  tabs := []
  located := fun key hk => by
    rw [Table.contains_iff, Table.keys_mapKeyed]
    exact hk }

/-- A source that imports a component. -/
def linkSource : Text × Text := ("Body", "import { Link } from \"ui\";")

/-- A source that gives the name of the component to a whole module. -/
def moduleSource : Text × Text := ("Rows", "import * as Link from \"ui\";")

/-- What the first one of these sources imports. -/
def linkBinding : Binding := { localName := "Link", source := "ui" }

/-- What the second one imports. -/
def moduleBinding : Binding := { localName := "Link", source := "ui", isNamespace := true }

theorem ofSource_linkSource : Binding.ofSource "Body.tsx" linkSource.2 = [linkBinding] := by
  decide +kernel

theorem ofSource_moduleSource : Binding.ofSource "Rows.tsx" moduleSource.2 = [moduleBinding] := by
  decide +kernel

/-- The case of these sources: the component is imported, and is not recognised if the other source
comes first. -/
theorem recognised_link :
    (policiesOf (linkUnit (Table.ofList [linkSource, moduleSource]))).contains "Link" = true ∧
    (policiesOf (linkUnit (Table.ofList [moduleSource, linkSource]))).contains "Link" = false ∧
    (∃ key, Imports (linkUnit (Table.ofList [moduleSource, linkSource])) key linkBinding) ∧
    Recognised (linkUnit (Table.ofList [moduleSource, linkSource])) "Link" := by
  have hshown : libraryBindings (linkUnit (Table.ofList [linkSource, moduleSource])) =
      [linkBinding, moduleBinding] :=
    libraryBindings_pair (by decide) (by decide) (by decide) ofSource_linkSource
      ofSource_moduleSource (by decide) (by decide)
  have hhidden : libraryBindings (linkUnit (Table.ofList [moduleSource, linkSource])) =
      [moduleBinding, linkBinding] :=
    libraryBindings_pair (by decide) (by decide) (by decide) ofSource_moduleSource
      ofSource_linkSource (by decide) (by decide)
  refine ⟨?_, ?_, ?_, recognised _ _⟩
  · rw [contains_policiesOf_iff, hshown]
    exact ⟨linkBinding, by decide, rfl⟩
  · rw [Table.contains, get?_policiesOf, hhidden]
    decide
  · rw [← mem_libraryBindings_iff, hhidden]
    exact List.mem_cons_of_mem _ (List.mem_cons_self ..)

end Hook

end UiHarness
