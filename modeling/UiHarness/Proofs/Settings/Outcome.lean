import UiHarness.Proofs.Detection.Faults
import UiHarness.Proofs.Generation.Analysis
import UiHarness.Settings.File

/-!
# What reading a settings file comes to

A settings file is optional, and so is everything in it.  Without one, or with one that is no TOML,
every setting has its default; otherwise each setting has the value of its key, and its default if
the key is missing.

Between these two lies a file that is TOML but holds something else in the place of a table.  Then
it depends on which table that is and on what stands there.  The place of all tools and that of the
model must be tables, or reading fails.  The place of the settings need not: what has no members
counts as no settings, and a list counts as a table if its members are pairs.  The first member that
is none decides about the others: without members, or with a key that can be none, it leaves the
defaults, and with more or fewer than two members it makes reading fail.

Reading also fails for bytes that are no text, for TOML that is too large for its reader, and for
too long a path, and in no other way.

* `Settings.gives_iff`: settings are known by the values of their keys.
* `Value.shape_cases`: what a list is that should be a table.
* `Settings.Taken`, `Settings.Unshaped`, `Settings.Unusable`: what a file can hold.
* `Settings.fileFor`, `Settings.read_eq`: the file that is read.
* `Settings.Outcome`, `Settings.read_outcome`: what reading comes to.
-/

namespace UiHarness

/-! ## 1.  Settings by their keys -/

/-- Facts are given by a table: each is the value of its key there, or as it is by default. -/
def GivenBy {α : Type} (facts : List (Text × (α → Value))) (default : α)
    (es : List (Text × Value)) (a : α) : Prop :=
  ∀ fact ∈ facts, fact.2 a = (Table.lookup fact.1 es).getD (fact.2 default)

namespace ModelSettings

/-- The settings for a model with their keys. -/
def facts : List (Text × (ModelSettings → Value)) :=
  [("model", model), ("max_tokens", maxTokens), ("analysis_max_tokens", analysisMaxTokens),
    ("temperature", temperature), ("api_key_env_var", keyVariable)]

theorem givenBy_ofEntries (es : List (Text × Value)) : GivenBy facts {} es (ofEntries es) := by
  simp only [GivenBy, facts, List.forall_mem_cons]
  exact ⟨rfl, rfl, rfl, rfl, rfl, fun _ h => absurd h List.not_mem_nil⟩

/-- The facts tell settings for a model apart. -/
theorem eq_of_facts {m m' : ModelSettings} (h : ∀ fact ∈ facts, fact.2 m = fact.2 m') : m = m' := by
  simp only [facts, List.forall_mem_cons] at h
  obtain ⟨h₁, h₂, h₃, h₄, h₅, -⟩ := h
  exact mk.injEq .. ▸ ⟨h₁, h₂, h₃, h₄, h₅⟩

end ModelSettings

namespace Settings

/-- The settings with their keys. -/
def facts : List (Text × (Settings → Value)) :=
  [("workspace_root", workspaceRoot), ("sections_root", sectionsRoot),
    ("ui_package_root", packageRoot), ("interactor_root", interactorRoot), ("test_root", testRoot),
    ("fixtures_path", fixturesPath), ("pages_root", pagesRoot),
    ("page_interactor_root", pageInteractorRoot), ("page_test_root", pageTestRoot),
    ("entity_types", entities), ("base_branch", baseBranch), ("skip_test_hooks", skipsHooks),
    ("dry_run", dryRun), ("verbose", verbose), ("watch_quiet_seconds", quietSeconds)]

/-- Settings are given by two tables, one of which is for the model.  Other keys do not count. -/
structure Gives (es model : List (Text × Value)) (s : Settings) : Prop where
  own : GivenBy facts {} es s
  model : GivenBy ModelSettings.facts {} model s.model

theorem gives_ofEntries (es model : List (Text × Value)) :
    Gives es model (ofEntries es (.ofEntries model)) := by
  refine ⟨?_, ModelSettings.givenBy_ofEntries model⟩
  simp only [GivenBy, facts, List.forall_mem_cons]
  exact ⟨rfl, rfl, rfl, rfl, rfl, rfl, rfl, rfl, rfl, rfl, rfl, rfl, rfl, rfl, rfl,
    fun _ h => absurd h List.not_mem_nil⟩

/-- The facts tell settings apart, up to those for the model. -/
theorem eq_of_facts {s s' : Settings} (h : ∀ fact ∈ facts, fact.2 s = fact.2 s')
    (hmodel : s.model = s'.model) : s = s' := by
  simp only [facts, List.forall_mem_cons] at h
  obtain ⟨h₁, h₂, h₃, h₄, h₅, h₆, h₇, h₈, h₉, h₁₀, h₁₁, h₁₂, h₁₃, h₁₄, h₁₅, -⟩ := h
  exact mk.injEq .. ▸ ⟨h₁, h₂, h₃, h₄, h₅, h₆, h₇, h₈, h₉, h₁₀, h₁₁, h₁₂, h₁₃, h₁₄, h₁₅, hmodel⟩

/-- **Settings are known by the values of their keys.** -/
theorem gives_iff {es model : List (Text × Value)} {s : Settings} :
    Gives es model s ↔ s = ofEntries es (.ofEntries model) := by
  refine ⟨fun h => ?_, fun h => h ▸ gives_ofEntries es model⟩
  have hgives := gives_ofEntries es model
  refine eq_of_facts (fun fact hfact => ?_) (ModelSettings.eq_of_facts fun fact hfact => ?_)
  · exact (h.own fact hfact).trans (hgives.own fact hfact).symm
  · exact (h.model fact hfact).trans (hgives.model fact hfact).symm

end Settings

/-! ## 2.  Lists in the place of tables -/

namespace Value

/-- A value that can be a key: it has no members that can change. -/
def IsKey (v : Value) : Prop := ¬ ((∃ vs, v = .list vs) ∨ v.IsTable)

/-- A value with two members, the first of which can be a key. -/
def IsPair (v : Value) : Prop := ∃ key value, v.members = .ok [key, value] ∧ key.IsKey

/-- Behind `k` pairs stands a value with `n` members, which are not two. -/
def Uneven (vs : List Value) (k n : Nat) : Prop :=
  ∃ front v parts back, vs = front ++ v :: back ∧ (∀ x ∈ front, IsPair x) ∧ front.length = k ∧
    v.members = .ok parts ∧ parts.length = n ∧ n ≠ 2

/-- Behind pairs stands a value without members, or one whose first of two members can be no key. -/
def Keyless (vs : List Value) : Prop :=
  ∃ front v back, vs = front ++ v :: back ∧ (∀ x ∈ front, IsPair x) ∧
    (¬ v.HasMembers ∨ ∃ key value, v.members = .ok [key, value] ∧ ¬ key.IsKey)

/-- What is said of the member at a place of a list that has another number of members than two. -/
def unevenMessage (k n : Nat) : Text :=
  "dictionary update sequence element #" ++ Text.ofNat k ++ " has length " ++ Text.ofNat n ++
    "; 2 is required"

variable {v : Value} {vs front : List Value} {i k n : Nat} {f : Fault}

theorem pairsFrom_cons_of_isPair (hv : v.IsPair) (i : Nat) (vs : List Value) : ∃ e,
    pairsFrom i (v :: vs) = pairsFrom (i + 1) vs >>= fun es => .ok (e :: es) := by
  obtain ⟨key, value, hmembers, hkey⟩ := hv
  refine ⟨(key, value), ?_⟩
  rw [pairsFrom, pair, hmembers]
  cases key with
  | list ws => exact absurd (.inl ⟨ws, rfl⟩) hkey
  | table es => exact absurd (.inr ⟨es, rfl⟩) hkey
  | _ => rfl

/-- What is wrong behind pairs is wrong with the whole list. -/
theorem pairsFrom_append (hfront : ∀ x ∈ front, IsPair x)
    (h : pairsFrom (i + front.length) vs = .error f) : pairsFrom i (front ++ vs) = .error f := by
  induction front generalizing i with
  | nil => exact h
  | cons v front ih =>
    rw [List.forall_mem_cons] at hfront
    obtain ⟨e, he⟩ := pairsFrom_cons_of_isPair hfront.1 i (front ++ vs)
    have hrest : pairsFrom (i + 1) (front ++ vs) = .error f := by
      refine ih hfront.2 ?_
      rwa [List.length_cons, Nat.add_comm front.length 1, ← Nat.add_assoc] at h
    rw [List.cons_append, he, hrest]
    rfl

theorem pairsFrom_of_isPair (h : ∀ x ∈ vs, IsPair x) (i : Nat) : ∃ es, pairsFrom i vs = .ok es := by
  induction vs generalizing i with
  | nil => exact ⟨[], rfl⟩
  | cons v vs ih =>
    rw [List.forall_mem_cons] at h
    obtain ⟨e, he⟩ := pairsFrom_cons_of_isPair h.1 i vs
    obtain ⟨es, hes⟩ := ih h.2 (i + 1)
    exact ⟨e :: es, by rw [he, hes]; rfl⟩

theorem pairsFrom_of_uneven (h : Uneven vs k n) :
    pairsFrom i vs = .error (.badValue (unevenMessage (i + k) n)) := by
  obtain ⟨front, v, parts, back, rfl, hfront, rfl, hmembers, rfl, hn⟩ := h
  refine pairsFrom_append hfront ?_
  rw [pairsFrom, pair, hmembers]
  match parts, hn with
  | [], _ => rfl
  | [_], _ => rfl
  | [_, _], hn => exact absurd rfl hn
  | _ :: _ :: _ :: _, _ => rfl

theorem pairsFrom_of_keyless (h : Keyless vs) (i : Nat) :
    ∃ m, pairsFrom i vs = .error (.wrongKind m) := by
  obtain ⟨front, v, back, rfl, hfront, hv⟩ := h
  suffices hrest : ∃ m, pairsFrom (i + front.length) (v :: back) = .error (.wrongKind m) from
    hrest.imp fun m hm => pairsFrom_append hfront hm
  rw [pairsFrom, pair]
  rcases hv with hno | ⟨key, value, hmembers, hkey⟩
  · rw [(v.members_cases.resolve_left fun hyes => hno hyes.1).2]
    exact ⟨_, rfl⟩
  · rw [hmembers]
    obtain ⟨ws, rfl⟩ | ⟨es, rfl⟩ := Classical.not_not.1 hkey
    · exact ⟨_, rfl⟩
    · exact ⟨_, rfl⟩

/-- **What a list is that should be a table**: pairs, or the first that is none decides. -/
theorem shape_cases (vs : List Value) :
    (∀ x ∈ vs, IsPair x) ∨ (∃ k n, Uneven vs k n) ∨ Keyless vs := by
  induction vs with
  | nil => exact .inl fun _ h => absurd h List.not_mem_nil
  | cons v vs ih =>
    by_cases hv : v.IsPair
    · have hcons : ∀ front : List Value, (∀ x ∈ front, IsPair x) → ∀ x ∈ v :: front, IsPair x :=
        fun front hfront => List.forall_mem_cons.2 ⟨hv, hfront⟩
      rcases ih with h | ⟨k, n, front, w, parts, back, rfl, hfront, rfl, hrest⟩ |
        ⟨front, w, back, rfl, hfront, hrest⟩
      · exact .inl (hcons vs h)
      · exact .inr (.inl ⟨_, n, v :: front, w, parts, back, rfl, hcons front hfront, rfl, hrest⟩)
      · exact .inr (.inr ⟨v :: front, w, back, rfl, hcons front hfront, hrest⟩)
    · have hnil : ∀ x ∈ ([] : List Value), IsPair x := fun _ h => absurd h List.not_mem_nil
      rcases v.members_cases with ⟨-, parts, hparts⟩ | ⟨hno, -⟩
      · by_cases htwo : parts.length = 2
        · obtain ⟨key, value, rfl⟩ := List.length_eq_two.1 htwo
          have hkey : ¬ key.IsKey := fun hkey => hv ⟨key, value, hparts, hkey⟩
          exact .inr (.inr ⟨[], v, vs, rfl, hnil, .inr ⟨key, value, hparts, hkey⟩⟩)
        · exact .inr (.inl ⟨0, _, [], v, parts, vs, rfl, hnil, rfl, hparts, rfl, htwo⟩)
      · exact .inr (.inr ⟨[], v, vs, rfl, hnil, .inl hno⟩)

/-- The entries of what is no table are its members as pairs. -/
theorem entries_of_members (hv : ¬ v.IsTable) (h : v.members = .ok vs) :
    v.entries = pairsFrom 0 vs >>= fun es => .ok (distinct es) := by
  cases v with
  | table es => exact absurd ⟨es, rfl⟩ hv
  | list ws =>
    cases h
    rfl
  | text t =>
    cases h
    rfl
  | _ => cases h

/-- What has no members has no entries. -/
theorem entries_of_not_hasMembers (hv : ¬ v.HasMembers) : v.entries = .error v.notIterable := by
  cases v with
  | list ws => exact absurd (.inl ⟨ws, rfl⟩) hv
  | table es => exact absurd (.inr (.inl ⟨es, rfl⟩)) hv
  | text t => exact absurd (.inr (.inr ⟨t, rfl⟩)) hv
  | _ => rfl

end Value

namespace Settings

/-! ## 3.  What a file can hold -/

/-- The bytes of a file are a TOML document. -/
def HoldsToml (bytes : ByteArray) (document : Toml.Entries) : Prop :=
  ∃ t, Text.decode bytes = .ok t ∧ Toml.parse t = .ok document

/-- The value in the place of the settings; without one it is the empty table. -/
def HoldsSettings (bytes : ByteArray) (v : Value) : Prop :=
  ∃ document tools, HoldsToml bytes document ∧ tableIn "tool" document = .table tools ∧
    tableIn "widgetsmith" tools = v

/-- A file with a table of settings and in it one for the model; each may be missing. -/
def HoldsTables (bytes : ByteArray) (es model : List (Text × Value)) : Prop :=
  HoldsSettings bytes (.table es) ∧ tableIn "llm" es = .table model

/-- A file with settings that can be taken as a table, and in it a table for the model. -/
def Taken (bytes : ByteArray) (es model : List (Text × Value)) : Prop :=
  ∃ v pairs, HoldsSettings bytes v ∧ v.entries = .ok pairs ∧ es = Value.textEntries pairs ∧
    tableIn "llm" es = .table model

/-- A file that changes nothing: it is no TOML, or what stands in the place of the settings has no
members, or it is a list whose first member that is no pair has none or no key. -/
inductive Unshaped (bytes : ByteArray) : Prop
  | malformed {t : Text} : Text.decode bytes = .ok t → Toml.parse t = .error .malformed →
    Unshaped bytes
  | memberless {v : Value} : HoldsSettings bytes v → ¬ v.HasMembers → Unshaped bytes
  | keyless {v : Value} {vs : List Value} : HoldsSettings bytes v → ¬ v.IsTable →
    v.members = .ok vs → Value.Keyless vs → Unshaped bytes

/-- A file that cannot be read as settings, and with what fault: it is no text, or has too large
values, or something else stands in the place of the tools or of the model, or the first member
that is no pair of the settings has another number of members than two. -/
inductive Unusable (bytes : ByteArray) : Fault → Prop
  | undecodable {u : Text.Undecodable} : Text.decode bytes = .error u →
    Unusable bytes (.undecodable u)
  | longInteger {t : Text} {digits : Nat} : Text.decode bytes = .ok t →
    Toml.parse t = .error (.longInteger digits) →
      Unusable bytes (.badValue (digitLimitMessage digits))
  | tooDeep {t : Text} : Text.decode bytes = .ok t → Toml.parse t = .error .tooDeep →
    Unusable bytes (.failure Toml.depthMessage)
  | tools {document : Toml.Entries} {v : Value} : HoldsToml bytes document →
    tableIn "tool" document = v → ¬ v.IsTable → Unusable bytes (v.lacks "get")
  | uneven {v : Value} {vs : List Value} {k n : Nat} : HoldsSettings bytes v → ¬ v.IsTable →
    v.members = .ok vs → Value.Uneven vs k n → Unusable bytes (.badValue (Value.unevenMessage k n))
  | model {v : Value} {pairs : List (Value × Value)} {w : Value} : HoldsSettings bytes v →
    v.entries = .ok pairs → tableIn "llm" (Value.textEntries pairs) = w → ¬ w.IsTable →
      Unusable bytes (w.lacks "items")

variable {bytes : ByteArray} {es model : List (Text × Value)} {v : Value} {f : Fault}

/-- A table of settings is taken as it is. -/
theorem HoldsTables.taken (h : HoldsTables bytes es model) : Taken bytes es model := by
  have htext : Value.textEntries (es.map fun e => (.text e.1, e.2)) = es := by
    rw [Value.textEntries, List.filterMap_map]
    exact List.filterMap_some
  exact ⟨_, _, h.1, rfl, htext.symm, h.2⟩

/-- What stands in the place of the settings is taken as a table, or changes nothing, or cannot be
used. -/
theorem settings_cases (h : HoldsSettings bytes v) :
    (∃ es model, Taken bytes es model) ∨ Unshaped bytes ∨ ∃ f, Unusable bytes f := by
  have hpairs : ∀ pairs, v.entries = .ok pairs →
      (∃ es model, Taken bytes es model) ∨ Unshaped bytes ∨ ∃ f, Unusable bytes f := by
    intro pairs hentries
    by_cases hmodel : (tableIn "llm" (Value.textEntries pairs)).IsTable
    · obtain ⟨model, hmodel⟩ := hmodel
      exact .inl ⟨_, model, v, pairs, h, hentries, rfl, hmodel⟩
    · exact .inr (.inr ⟨_, .model h hentries rfl hmodel⟩)
  by_cases htable : v.IsTable
  · obtain ⟨es, rfl⟩ := htable
    exact hpairs _ rfl
  · rcases v.members_cases with ⟨-, vs, hvs⟩ | ⟨hno, -⟩
    · rcases Value.shape_cases vs with hall | ⟨k, n, huneven⟩ | hkeyless
      · obtain ⟨es, hes⟩ := Value.pairsFrom_of_isPair hall 0
        exact hpairs _ (by rw [Value.entries_of_members htable hvs, hes]; rfl)
      · exact .inr (.inr ⟨_, .uneven h htable hvs huneven⟩)
      · exact .inr (.inl (.keyless h htable hvs hkeyless))
    · exact .inr (.inl (.memberless h hno))

/-- **What a file can hold**: settings, or what changes nothing, or what cannot be used. -/
theorem file_cases (bytes : ByteArray) :
    (∃ es model, Taken bytes es model) ∨ Unshaped bytes ∨ ∃ f, Unusable bytes f := by
  cases hdecode : Text.decode bytes with
  | error u => exact .inr (.inr ⟨_, .undecodable hdecode⟩)
  | ok t =>
    cases hparse : Toml.parse t with
    | error failure =>
      cases failure with
      | malformed => exact .inr (.inl (.malformed hdecode hparse))
      | longInteger digits => exact .inr (.inr ⟨_, .longInteger hdecode hparse⟩)
      | tooDeep => exact .inr (.inr ⟨_, .tooDeep hdecode hparse⟩)
    | ok document =>
      have htoml : HoldsToml bytes document := ⟨t, hdecode, hparse⟩
      by_cases htools : (tableIn "tool" document).IsTable
      · obtain ⟨tools, htools⟩ := htools
        exact settings_cases ⟨document, tools, htoml, htools, rfl⟩
      · exact .inr (.inr ⟨_, .tools htoml rfl htools⟩)

/-! ## 4.  What is read from the bytes -/

/-- The settings in what stands in their place. -/
def ofValue (v : Value) : Except Fault Settings :=
  v.entries >>= fun pairs =>
    match tableIn "llm" (Value.textEntries pairs) with
    | .table model => .ok (ofEntries (Value.textEntries pairs) (.ofEntries model))
    | w => .error (w.lacks "items")

/-- Something of the wrong kind leaves the defaults. -/
def orDefault : Except Fault Settings → Except Fault Settings
  | .error (.wrongKind _) => .ok {}
  | result => result

theorem ofBytes_of_holdsToml {document : Toml.Entries} (h : HoldsToml bytes document) :
    ofBytes bytes = orDefault (ofDocument document) := by
  obtain ⟨t, hdecode, hparse⟩ := h
  rw [ofBytes, hdecode]
  dsimp only
  rw [hparse]
  rfl

theorem ofBytes_of_holdsSettings (h : HoldsSettings bytes v) :
    ofBytes bytes = orDefault (ofValue v) := by
  obtain ⟨document, tools, htoml, htools, rfl⟩ := h
  rw [ofBytes_of_holdsToml htoml, ofDocument, htools]
  rfl

/-- Settings that can be taken as a table are read. -/
theorem ofBytes_of_taken (h : Taken bytes es model) :
    ofBytes bytes = .ok (ofEntries es (.ofEntries model)) := by
  obtain ⟨v, pairs, hv, hentries, rfl, hmodel⟩ := h
  rw [ofBytes_of_holdsSettings hv, ofValue, hentries]
  dsimp only [bind, Except.bind]
  rw [hmodel]
  rfl

/-- What is unshaped changes nothing. -/
theorem ofBytes_of_unshaped (h : Unshaped bytes) : ofBytes bytes = .ok {} := by
  cases h with
  | malformed hdecode hparse =>
    rw [ofBytes, hdecode]
    dsimp only
    rw [hparse]
  | memberless hv hno =>
    rw [ofBytes_of_holdsSettings hv, ofValue, Value.entries_of_not_hasMembers hno]
    rfl
  | keyless hv htable hvs hkeyless =>
    obtain ⟨m, hm⟩ := Value.pairsFrom_of_keyless hkeyless 0
    rw [ofBytes_of_holdsSettings hv, ofValue, Value.entries_of_members htable hvs, hm]
    rfl

/-- What cannot be used makes reading fail. -/
theorem ofBytes_of_unusable (h : Unusable bytes f) : ofBytes bytes = .error f := by
  cases h with
  | undecodable hdecode => rw [ofBytes, hdecode]
  | longInteger hdecode hparse =>
    rw [ofBytes, hdecode]
    dsimp only
    rw [hparse]
  | tooDeep hdecode hparse =>
    rw [ofBytes, hdecode]
    dsimp only
    rw [hparse]
  | @tools document v htoml hv htable =>
    rw [ofBytes_of_holdsToml htoml, ofDocument, hv]
    cases v with
    | table es => exact absurd ⟨es, rfl⟩ htable
    | _ => rfl
  | uneven hv htable hvs huneven =>
    rw [ofBytes_of_holdsSettings hv, ofValue, Value.entries_of_members htable hvs,
      Value.pairsFrom_of_uneven huneven, Nat.zero_add]
    rfl
  | @model v pairs w hv hentries hw htable =>
    rw [ofBytes_of_holdsSettings hv, ofValue, hentries]
    dsimp only [bind, Except.bind]
    rw [hw]
    cases w with
    | table es => exact absurd ⟨es, rfl⟩ htable
    | _ => rfl

/-- Reading bytes fails for those that cannot be used only. -/
theorem ofBytes_eq_error : ofBytes bytes = .error f ↔ Unusable bytes f := by
  refine ⟨fun h => ?_, ofBytes_of_unusable⟩
  rcases file_cases bytes with ⟨es, model, htaken⟩ | hunshaped | ⟨f', hf'⟩
  · rw [ofBytes_of_taken htaken] at h
    cases h
  · rw [ofBytes_of_unshaped hunshaped] at h
    cases h
  · rw [ofBytes_of_unusable hf'] at h
    exact Except.error.inj h ▸ hf'

/-! ## 5.  What is read from a path -/

/-- The file that a path stands for: in a directory the settings file there. -/
def fileFor (d : Disk) (p : Path) : Path :=
  match d.find p with
  | .ok .directory => p.child fileName
  | _ => p

/-- The settings in what a path is found to lead to. -/
def ofFound (file : Path) : Except Refusal Entry → Except Fault Settings
  | .ok (.file bytes) => ofBytes bytes
  | .error .nameTooLong => .error (.refused .nameTooLong file.text)
  | _ => .ok {}

/-- **Reading a path** is reading the file that it stands for. -/
theorem read_eq (d : Disk) (p : Path) :
    read d p = ofFound (fileFor d p) (d.find (fileFor d p)) := by
  rw [read, Disk.isDirectory, Disk.find?, fileFor]
  cases hp : d.find p with
  | error why =>
    cases why with
    | nameTooLong =>
      dsimp only
      rw [hp]
      rfl
    | _ =>
      simp only [bind, Except.bind, Bool.false_eq_true, if_false, Disk.contains, Disk.find?, hp]
      rfl
  | ok e =>
    cases e with
    | file bytes =>
      simp only [bind, Except.bind, Bool.false_eq_true, if_false, Disk.contains, Disk.find?,
        Disk.readBytes, hp]
      rfl
    | directory =>
      simp only [bind, Except.bind, if_true, Disk.contains, Disk.find?, Disk.readBytes]
      cases d.find (p.child fileName) with
      | ok e => cases e <;> rfl
      | error why => cases why <;> rfl

/-- What makes reading fail: too long a path, or a file that cannot be used. -/
inductive Failing (d : Disk) (p : Path) : Fault → Prop
  | tooLong : d.find (fileFor d p) = .error .nameTooLong →
    Failing d p (.refused .nameTooLong (fileFor d p).text)
  | unusable {bytes : ByteArray} {f : Fault} : d.find (fileFor d p) = .ok (.file bytes) →
    Unusable bytes f → Failing d p f

/-- What reading the settings of a path comes to.  Without a file, or with one that changes nothing,
all settings have their defaults; the tables of a file give them, and so does what can be taken as
tables; otherwise reading fails. -/
structure Outcome (d : Disk) (p : Path) (r : Except Fault Settings) : Prop where
  failing_iff : ∀ f, r = .error f ↔ Failing d p f
  missing : ∀ why, d.find (fileFor d p) = .error why → why ≠ .nameTooLong → r = .ok {}
  directory : d.find (fileFor d p) = .ok .directory → r = .ok {}
  unshaped : ∀ bytes, d.find (fileFor d p) = .ok (.file bytes) → Unshaped bytes → r = .ok {}
  tables : ∀ bytes es model, d.find (fileFor d p) = .ok (.file bytes) →
    HoldsTables bytes es model → ∃ s, r = .ok s ∧ ∀ s', Gives es model s' ↔ s' = s
  taken : ∀ bytes es model, d.find (fileFor d p) = .ok (.file bytes) →
    Taken bytes es model → ∃ s, r = .ok s ∧ ∀ s', Gives es model s' ↔ s' = s
  files : ∀ bytes, d.find (fileFor d p) = .ok (.file bytes) →
    (∃ es model, Taken bytes es model) ∨ Unshaped bytes ∨ ∃ f, Unusable bytes f

/-- **What reading the settings of a path comes to**, whatever is there. -/
theorem read_settled (d : Disk) (p : Path) : Outcome d p (read d p) := by
  have hread := read_eq d p
  refine ⟨fun f => ?_, fun why h hwhy => ?_, fun h => ?_, fun bytes h hunshaped => ?_,
    fun bytes es model h htables => ?_, fun bytes es model h htaken => ?_,
    fun bytes _ => file_cases bytes⟩
  · constructor
    · intro hf
      rw [hread] at hf
      cases h : d.find (fileFor d p) with
      | ok e =>
        rw [h] at hf
        cases e with
        | directory => cases hf
        | file bytes => exact .unusable h (ofBytes_eq_error.1 hf)
      | error why =>
        rw [h] at hf
        cases why with
        | nameTooLong => exact Except.error.inj hf ▸ .tooLong h
        | _ => cases hf
    · rintro (h | ⟨h, hunusable⟩)
      · rw [hread, h]
        rfl
      · rw [hread, h]
        exact ofBytes_of_unusable hunusable
  · rw [hread, h]
    cases why with
    | nameTooLong => exact absurd rfl hwhy
    | _ => rfl
  · rw [hread, h]
    rfl
  · rw [hread, h]
    exact ofBytes_of_unshaped hunshaped
  · rw [hread, h]
    exact ⟨_, ofBytes_of_taken htables.taken, fun _ => gives_iff⟩
  · rw [hread, h]
    exact ⟨_, ofBytes_of_taken htaken, fun _ => gives_iff⟩

/-- The case of a number in the place of the model. -/
example : (read { entries := Table.ofList [("/pyproject.toml",
    .file (Text.encode "[tool.widgetsmith]\nllm = 5\n"))] } (.ofText ".")).toOption.isNone := by
  decide +kernel

end Settings

end UiHarness
