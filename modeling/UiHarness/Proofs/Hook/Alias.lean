import UiHarness.Proofs.Hook.Recognition

/-!
# Components under other names

A component of the UI library may be imported under another name.  The override for a component is
looked up under the name that the library exports, so what it says holds under every local name.
Without an override the pattern is made from the local name, and so is the answer to the question
whether the component renders nothing: it is told by the end of the local name, not by that of the
exported one.  A provider that is imported under a shorter name is taken for a component that
renders, and a component that is given the name of a provider gets no hooks.

* `Hook.ofBinding_of_listed`, `Hook.ofBinding_of_unlisted`: the policy for an export under a local
  name.
* `Hook.Aliased`: what the policies for two local names of one export have in common.
* `Hook.aliased_of_table`: what they have, in whatever files the export is imported.
-/

namespace UiHarness

/-- An export is looked up under its name, whatever the local name. -/
theorem Binding.exported_named {exportName : Text} (h : exportName ≠ []) (localName source : Text) :
    (Binding.named localName source (some exportName)).exported = exportName := by
  rw [Binding.exported, Binding.named]
  dsimp only
  split
  · rename_i name hname
    split at hname
    · cases hname
    · rw [← Option.some.inj hname, if_neg fun he => h (List.isEmpty_iff.1 he)]
  · rename_i hnone
    split at hnone
    · rename_i hsame
      exact (Option.some.inj hsame).symm
    · cases hnone

/-- An export whose name is empty is looked up under the local name. -/
theorem Binding.exported_nameless (localName source : Text) :
    (Binding.named localName source (some [])).exported = localName := by
  rw [Binding.exported, Binding.named]
  dsimp only
  split
  · rename_i name hname
    split at hname
    · cases hname
    · rw [← Option.some.inj hname]
      rfl
  · rfl

namespace Hook

variable {overrides : Overrides} {o a b source : Text}

/-! ## 1.  The policy for a local name -/

/-- A binding that counts in a bucket has its policy in the table. -/
theorem get?_table {bucket : Bucket} {x : Binding} (h : x ∈ components bucket) :
    (Policy.table overrides bucket).get? x.localName = some (Policy.ofBinding overrides x) := by
  have hkeys : (((components bucket).map fun x =>
      (x.localName, Policy.ofBinding overrides x)).map Prod.fst).Nodup := by
    rw [List.map_map]
    exact Bucket.nodup_firstOfEach [] _
  rw [Table.get?_eq_some, Policy.table, Table.entries_ofList hkeys]
  exact List.mem_map.2 ⟨x, h, rfl⟩

/-- The policy for a component by default. -/
def Policy.plain (localName source : Text) : Policy :=
  { name := localName, pattern := some (defaultPattern localName), source := some source }

/-- The policy for an export with an override is that of the override. -/
theorem ofBinding_of_listed (ho : o ≠ []) {x : Override} (hx : Table.lookup o overrides = some x) :
    Policy.ofBinding overrides (.named a source (some o)) = x.apply (.plain a source) := by
  rw [Policy.ofBinding, Binding.exported_named ho, hx]
  rfl

/-- The policy for an export without an override is that of the local name. -/
theorem ofBinding_of_unlisted (ho : o ≠ []) (h : Table.lookup o overrides = none) :
    Policy.ofBinding overrides (.named a source (some o)) =
      { Policy.plain a source with nonRendering := isNonRendering a } := by
  rw [Policy.ofBinding, Binding.exported_named ho, h]
  rfl

/-- The policy for an export whose name is empty is that for an export of the local name. -/
theorem ofBinding_nameless (overrides : Overrides) (a source : Text) :
    Policy.ofBinding overrides (.named a source (some [])) =
      Policy.ofBinding overrides (.named a source none) := by
  rw [Policy.ofBinding, Binding.exported_nameless]
  rfl

/-- Whether hooks are given does not depend on the name if there is an override. -/
theorem injects_apply_plain (x : Override) (a b source : Text) :
    (x.apply (.plain a source)).injects = (x.apply (.plain b source)).injects := by
  have hpattern : (x.pattern.getD (some (defaultPattern a))).isSome =
      (x.pattern.getD (some (defaultPattern b))).isSome := by
    cases x.pattern with
    | none => rfl
    | some pattern => rfl
  change ((x.pattern.getD (some (defaultPattern a))).isSome && _ && _) = _
  rw [hpattern]
  rfl

/-! ## 2.  Two local names of one export -/

/-- What the policies `p` and `q` for two local names `a` and `b` of an export `o` have in
common. -/
structure Aliased (overrides : Overrides) (o a b : Text) (p q : Policy) : Prop where
  onlyExternal : p.onlyExternal = q.onlyExternal
  skipUnlessSpecial : p.skipUnlessSpecial = q.skipUnlessSpecial
  builtIn : p.builtIn = q.builtIn
  /-- The pattern of an override holds under both names. -/
  pattern : ∀ x pattern, Table.lookup o overrides = some x → x.pattern = some pattern →
    p.pattern = pattern ∧ q.pattern = pattern
  /-- Otherwise there are the patterns that are made from the names. -/
  defaults : (∀ x, Table.lookup o overrides = some x → x.pattern = none) →
    p.pattern = some (defaultPattern a) ∧ q.pattern = some (defaultPattern b)
  /-- Besides the name and the pattern, they can differ in whether the component renders. -/
  rest : q = { p with name := q.name, pattern := q.pattern, nonRendering := q.nonRendering }
  /-- **Both or none of them render** exactly if there is an override or the names end alike. -/
  nonRendering_iff : p.nonRendering = q.nonRendering ↔
    (∃ x, Table.lookup o overrides = some x) ∨ isNonRendering a = isNonRendering b
  /-- **Both or none of them give hooks** in the same case. -/
  injects_iff : p.injects = q.injects ↔
    (∃ x, Table.lookup o overrides = some x) ∨ isNonRendering a = isNonRendering b

/-- With an override the local names decide nothing but the name and the pattern. -/
theorem aliased_of_listed (ho : o ≠ []) {x : Override} (hx : Table.lookup o overrides = some x) :
    Aliased overrides o a b (Policy.ofBinding overrides (.named a source (some o)))
      (Policy.ofBinding overrides (.named b source (some o))) := by
  rw [ofBinding_of_listed ho hx, ofBinding_of_listed ho hx]
  refine ⟨rfl, rfl, rfl, fun y pattern hy hpattern => ?_, fun hnone => ?_, rfl, ?_, ?_⟩
  · obtain rfl := Option.some.inj (hx.symm.trans hy)
    change x.pattern.getD _ = pattern ∧ x.pattern.getD _ = pattern
    rw [hpattern]
    exact ⟨rfl, rfl⟩
  · change x.pattern.getD _ = _ ∧ x.pattern.getD _ = _
    rw [hnone x hx]
    exact ⟨rfl, rfl⟩
  · exact iff_of_true rfl (.inl ⟨x, hx⟩)
  · exact iff_of_true (injects_apply_plain x a b source) (.inl ⟨x, hx⟩)

/-- Without one the ends of the local names decide whether the component renders. -/
theorem aliased_of_unlisted (ho : o ≠ []) (h : Table.lookup o overrides = none) :
    Aliased overrides o a b (Policy.ofBinding overrides (.named a source (some o)))
      (Policy.ofBinding overrides (.named b source (some o))) := by
  have hnone : ¬ ∃ x, Table.lookup o overrides = some x := by
    rintro ⟨x, hx⟩
    rw [h] at hx
    cases hx
  rw [ofBinding_of_unlisted ho h, ofBinding_of_unlisted ho h]
  refine ⟨rfl, rfl, rfl, fun x _ hx => absurd ⟨x, hx⟩ hnone, fun _ => ⟨rfl, rfl⟩, rfl, ?_, ?_⟩
  · rw [or_iff_right hnone]
  · rw [or_iff_right hnone]
    change (!isNonRendering a) = (!isNonRendering b) ↔ _
    rw [Bool.not_inj_iff]

/-- **Two local names of one export**, in whatever files and beside whatever other imports: their
policies agree in all but the name and the pattern made from it, and in whether the component
renders if it has no override and the ends of the two names tell them apart.  An export whose name
is empty counts as one of the local name. -/
theorem aliased_of_table (overrides : Overrides) (o a b source : Text) {first second : Bucket}
    (ha : Binding.named a source (some o) ∈ components first)
    (hb : Binding.named b source (some o) ∈ components second) :
    ∃ p q, (Policy.table overrides first).get? a = some p ∧
      (Policy.table overrides second).get? b = some q ∧
      (o ≠ [] → Aliased overrides o a b p q) ∧
      (o = [] → p = Policy.ofBinding overrides (.named a source none) ∧
        q = Policy.ofBinding overrides (.named b source none)) := by
  refine ⟨_, _, get?_table ha, get?_table hb, fun ho => ?_, ?_⟩
  · cases h : Table.lookup o overrides with
    | some x => exact aliased_of_listed ho h
    | none => exact aliased_of_unlisted ho h
  · rintro rfl
    exact ⟨ofBinding_nameless overrides a source, ofBinding_nameless overrides b source⟩

/-- A file that imports a provider under a shorter name. -/
def renamedProviderCode : Text := "import { ThemeProvider as Theme } from \"ui\";"

/-- A file that imports it under its own name. -/
def providerCode : Text := "import { ThemeProvider } from \"ui\";"

theorem ofSource_renamedProviderCode : Binding.ofSource "Body.tsx" renamedProviderCode =
    [.named "Theme" "ui" (some "ThemeProvider")] := by
  decide +kernel

theorem ofSource_providerCode : Binding.ofSource "Body.tsx" providerCode =
    [.named "ThemeProvider" "ui" (some "ThemeProvider")] := by
  decide +kernel

/-- The case of these files: the provider gives hooks under the shorter name, and none under its
own. -/
theorem aliased_provider :
    Binding.named "Theme" "ui" (some "ThemeProvider") ∈
      components (.ofFile "Body.tsx" renamedProviderCode) ∧
    Binding.named "ThemeProvider" "ui" (some "ThemeProvider") ∈
      components (.ofFile "Body.tsx" providerCode) ∧
    ∃ p q, (Policy.ofFile "Body.tsx" renamedProviderCode).get? "Theme" = some p ∧
      (Policy.ofFile "Body.tsx" providerCode).get? "ThemeProvider" = some q ∧
      p.injects = true ∧ q.injects = false ∧
      Aliased libraryOverrides "ThemeProvider" "Theme" "ThemeProvider" p q := by
  have hrenamed : Binding.named "Theme" "ui" (some "ThemeProvider") ∈
      components (.ofFile "Body.tsx" renamedProviderCode) := by
    rw [Bucket.ofFile, ofSource_renamedProviderCode]
    decide
  have hown : Binding.named "ThemeProvider" "ui" (some "ThemeProvider") ∈
      components (.ofFile "Body.tsx" providerCode) := by
    rw [Bucket.ofFile, ofSource_providerCode]
    decide
  obtain ⟨p, q, hp, hq, haliased, -⟩ :=
    aliased_of_table libraryOverrides "ThemeProvider" "Theme" "ThemeProvider" "ui" hrenamed hown
  refine ⟨hrenamed, hown, p, q, hp, hq, ?_, ?_, haliased (by decide)⟩
  · rw [← Option.some.inj ((get?_table hrenamed).symm.trans hp)]
    decide
  · rw [← Option.some.inj ((get?_table hown).symm.trans hq)]
    decide

end Hook

end UiHarness
