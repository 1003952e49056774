import UiHarness.Proofs.Imports.Occurrences
import UiHarness.Syntax.Token

/-!
# What an entry file declares

The identifier and the name of a widget are looked for in the text of its entry file, as a property
with a text in quotes.  Nothing is asked of what stands in front of the property, so the end of a
longer word such as `uuid` will do, and the text in quotes ends with the next quote of either kind.
So it need not be the property of the widget that is found.  What is found is what stands at the
first place of such a form, and it is declared if that place is a property of its own.

* `Detection.Declares`: a property of its own, and its value.
* `Detection.Occurrence`: a place at which a property is looked for.
* `Detection.Occurrence.IsOwn`: a place at which the property is one of its own.
* `Detection.findFirst?_property?_eq_some_iff`: what is found is the value at the first place.
* `Detection.facts_told`: the facts of a widget, by the text of its entry file.
* `Detection.not_allDeclared`: a fact need not be declared.
-/

namespace UiHarness.Detection

open Text Syntax

variable {name t v r w : Text}

/-! ## 1.  Properties -/

/-- A text as it stands in a string: no quote that ends it, nothing that is escaped, no line
end. -/
structure IsPlain (q : Char) (v : Text) : Prop where
  quote : q ∉ v
  escape : '\\' ∉ v
  line : '\n' ∉ v

/-- A text declares a property: its name is a word and not the end of a longer one, and behind it
stand a colon, blanks, and the value as a string. -/
def Declares (name t v : Text) : Prop :=
  ∃ before blanks q behind, t = before ++ (name ++ ':' :: (blanks ++ q :: (v ++ q :: behind))) ∧
    (∀ c ∈ before.getLast?, isNameChar c = false) ∧ (∀ c ∈ blanks, isBlank c = true) ∧
    Scan.isQuote q = true ∧ IsPlain q v

/-- A place at which a property is looked for: a name, a colon, blanks, and a text between quotes
that is not empty and has no quote in it. -/
structure Occurrence (name t : Text) where
  before : Text
  blanks : Text
  opening : Char
  value : Text
  closing : Char
  behind : Text
  text_eq : t = before ++ (name ++ ':' :: (blanks ++ opening :: (value ++ closing :: behind)))
  blank : ∀ c ∈ blanks, isBlank c = true
  isQuote_opening : Scan.isQuote opening = true
  isQuote_closing : Scan.isQuote closing = true
  ne_nil : value ≠ []
  free : ∀ c ∈ value, Scan.isQuote c = false

/-- A place with no other one in front of it. -/
def Occurrence.IsFirst (p : Occurrence name t) : Prop :=
  ∀ p' : Occurrence name t, p.before.length ≤ p'.before.length

/-- A place at which the property is one of its own: its name is not the end of a longer word, the
quotes are alike, and nothing in the value is escaped or ends the line. -/
structure Occurrence.IsOwn (p : Occurrence name t) : Prop where
  whole : ∀ c ∈ p.before.getLast?, isNameChar c = false
  alike : p.closing = p.opening
  escape : '\\' ∉ p.value
  line : '\n' ∉ p.value

/-- What is declared, and has no quotes in it, is the value at a place of its own. -/
theorem declares_iff (hne : v ≠ []) (hfree : ∀ c ∈ v, Scan.isQuote c = false) :
    Declares name t v ↔ ∃ p : Occurrence name t, p.IsOwn ∧ p.value = v := by
  constructor
  · rintro ⟨before, blanks, q, behind, ht, hwhole, hblank, hq, hv⟩
    exact ⟨⟨before, blanks, q, v, q, behind, ht, hblank, hq, hq, hne, hfree⟩,
      ⟨hwhole, rfl, hv.escape, hv.line⟩, rfl⟩
  · rintro ⟨p, hown, rfl⟩
    have ht := p.text_eq
    rw [hown.alike] at ht
    refine ⟨p.before, p.blanks, p.opening, p.behind, ht, hown.whole, p.blank, p.isQuote_opening,
      fun hq => ?_, hown.escape, hown.line⟩
    have hfree := p.free _ hq
    rw [p.isQuote_opening] at hfree
    cases hfree

/-! ## 2.  Looking for a property -/

/-- Blanks end at the first character that is none. -/
theorem stripStart_eq_cons_iff {c : Char} (hc : isBlank c = false) :
    stripStart t = c :: r ↔ ∃ b, (∀ d ∈ b, isBlank d = true) ∧ t = b ++ c :: r := by
  rw [stripStart]
  constructor
  · intro h
    refine ⟨t.takeWhile isBlank, fun d hd => List.mem_takeWhile_imp hd, ?_⟩
    rw [← h, List.takeWhile_append_dropWhile]
  · rintro ⟨b, hb, rfl⟩
    rw [List.dropWhile_append_of_pos hb]
    exact List.dropWhile_cons_of_neg (by rw [hc]; exact Bool.false_ne_true)

theorem quoted?_eq_some : quoted? t = some (v, r) ↔
    ∃ p q, Scan.isQuote p = true ∧ Scan.isQuote q = true ∧ v ≠ [] ∧
      (∀ c ∈ v, Scan.isQuote c = false) ∧ t = p :: (v ++ q :: r) := by
  constructor
  · intro h
    unfold quoted? at h
    split at h
    · cases h
    · rename_i t' hquote
      obtain ⟨p, hp, rfl⟩ := Scan.quote?_eq_some.1 hquote
      split at h
      · rename_i c cs q r' hspan
        obtain ⟨rfl, rfl⟩ := Prod.mk.inj (Option.some.inj h)
        obtain ⟨rfl, hfree, hq⟩ := span_eq_iff.1 hspan
        refine ⟨p, q, hp, ?_, List.cons_ne_nil _ _, fun c hc => ?_, rfl⟩
        · exact Bool.not_eq_false' _ ▸ hq q rfl
        · exact Bool.not_eq_true' _ ▸ hfree c hc
      · cases h
  · rintro ⟨p, q, hp, hq, hne, hfree, rfl⟩
    have hquote : Scan.quote? (p :: (v ++ q :: r)) = some (v ++ q :: r) :=
      Scan.quote?_eq_some.2 ⟨p, hp, rfl⟩
    have hspan : (v ++ q :: r).span (!Scan.isQuote ·) = (v, q :: r) := by
      refine span_eq_iff.2 ⟨rfl, fun c hc => ?_, fun c hc => ?_⟩
      · rw [hfree c hc, Bool.not_false]
      · rw [← Option.some.inj hc, hq, Bool.not_true]
    rw [quoted?, hquote]
    dsimp only
    rw [hspan]
    cases v with
    | nil => exact absurd rfl hne
    | cons c v => rfl

/-- What is read as a property of a name and a value. -/
inductive PropertyForm (name : Text) : Text → Text → Prop
  | intro {b v : Text} {p q : Char} (hb : ∀ c ∈ b, isBlank c = true) (hp : Scan.isQuote p = true)
      (hq : Scan.isQuote q = true) (hne : v ≠ []) (hfree : ∀ c ∈ v, Scan.isQuote c = false) :
      PropertyForm name (name ++ ':' :: (b ++ p :: (v ++ [q]))) v

theorem property?_eq_some :
    property? name t = some (v, r) ↔ ∃ w, PropertyForm name w v ∧ t = w ++ r := by
  constructor
  · intro h
    obtain ⟨r', hafter, hquoted⟩ := Option.bind_eq_some_iff.1 h
    obtain rfl := after?_eq_some_iff.1 hafter
    obtain ⟨p, q, hp, hq, hne, hfree, hstrip⟩ := quoted?_eq_some.1 hquoted
    obtain ⟨b, hb, rfl⟩ := (stripStart_eq_cons_iff (Scan.isBlank_of_isQuote hp)).1 hstrip
    exact ⟨_, .intro hb hp hq hne hfree, by simp⟩
  · rintro ⟨w, ⟨hb, hp, hq, hne, hfree⟩, rfl⟩
    rename_i b p q
    have hstrip : stripStart (b ++ p :: (v ++ q :: r)) = p :: (v ++ q :: r) :=
      (stripStart_eq_cons_iff (Scan.isBlank_of_isQuote hp)).2 ⟨b, hb, rfl⟩
    have ht : name ++ ':' :: (b ++ p :: (v ++ [q])) ++ r =
        (name ++ [':']) ++ (b ++ p :: (v ++ q :: r)) := by simp
    rw [ht, property?, Option.bind_eq_bind, after?_append, Option.bind_some, hstrip]
    exact quoted?_eq_some.2 ⟨p, q, hp, hq, hne, hfree, rfl⟩

theorem recognises_property? (name : Text) :
    Scan.Recognises (property? name) (PropertyForm name) where
  iff := property?_eq_some
  ne_nil h := by
    cases h
    simp

/-- The places of a text are what is looked for. -/
theorem exists_occurrence_iff {x : Text} :
    (∃ y, PropertyForm name w v ∧ t = x ++ (w ++ y)) ↔
      ∃ p : Occurrence name t, p.before = x ∧ p.value = v ∧
        w = name ++ ':' :: (p.blanks ++ p.opening :: (p.value ++ [p.closing])) := by
  constructor
  · rintro ⟨y, ⟨hb, hp, hq, hne, hfree⟩, rfl⟩
    exact ⟨⟨x, _, _, v, _, y, by simp, hb, hp, hq, hne, hfree⟩, rfl, rfl, rfl⟩
  · rintro ⟨p, rfl, rfl, rfl⟩
    refine ⟨p.behind, .intro p.blank p.isQuote_opening p.isQuote_closing p.ne_nil p.free, ?_⟩
    have ht := p.text_eq
    simp only [List.append_assoc, List.cons_append, List.nil_append]
    exact ht

/-- **What is found is the value at the first place.** -/
theorem findFirst?_property?_eq_some_iff :
    (findFirst? (property? name) t).map Prod.fst = some v ↔
      ∃ p : Occurrence name t, p.value = v ∧ p.IsFirst := by
  rw [Option.map_eq_some_iff]
  constructor
  · rintro ⟨⟨v', r⟩, hfound, rfl⟩
    obtain ⟨x, w, hform, ht, hfirst⟩ := (recognises_property? name).findFirst?_eq_some_iff.1 hfound
    obtain ⟨p, rfl, hv, -⟩ := exists_occurrence_iff.1 ⟨r, hform, ht⟩
    refine ⟨p, hv, fun p' => ?_⟩
    obtain ⟨y, hform', ht'⟩ := exists_occurrence_iff.2 ⟨p', rfl, rfl, rfl⟩
    exact hfirst _ _ y _ ht' hform'
  · rintro ⟨p, rfl, hfirst⟩
    obtain ⟨y, hform, ht⟩ := exists_occurrence_iff.2 ⟨p, rfl, rfl, rfl⟩
    refine ⟨(p.value, y), ?_, rfl⟩
    refine (recognises_property? name).findFirst?_eq_some_iff.2 ⟨p.before, _, hform, ht, ?_⟩
    intro x' w' y' v' ht' hform'
    obtain ⟨p', rfl, -, -⟩ := exists_occurrence_iff.1 ⟨y', hform', ht'⟩
    exact hfirst p'

/-- Nothing is found if there is no place. -/
theorem findFirst?_property?_eq_none_iff :
    (findFirst? (property? name) t).map Prod.fst = none ↔ IsEmpty (Occurrence name t) := by
  rw [Option.map_eq_none_iff, (recognises_property? name).findFirst?_eq_none_iff]
  constructor
  · refine fun hnone => ⟨fun p => ?_⟩
    obtain ⟨y, hform, ht⟩ := exists_occurrence_iff.2 ⟨p, rfl, rfl, rfl⟩
    exact hnone _ _ y _ ht hform
  · intro hempty x w y v ht hform
    obtain ⟨p, -⟩ := exists_occurrence_iff.1 ⟨y, hform, ht⟩
    exact hempty.elim p

/-! ## 3.  The facts of a widget -/

/-- What is told of a property by a text. -/
structure Told (name t : Text) (found : Option Text) : Prop where
  /-- It is the value at the first place at which the property is looked for. -/
  first : ∀ v, found = some v ↔ ∃ p : Occurrence name t, p.value = v ∧ p.IsFirst
  /-- Nothing is told only if there is no such place. -/
  nothing : found = none ↔ IsEmpty (Occurrence name t)
  /-- What is told is declared exactly if it is the value at a place that is a property of its
  own. -/
  declared : ∀ v, found = some v →
    (Declares name t v ↔ ∃ p : Occurrence name t, p.IsOwn ∧ p.value = v)
  /-- So it is declared if no place in front of all properties of their own is another one. -/
  own : (∀ p : Occurrence name t, p.IsFirst → p.IsOwn) → ∀ v, found = some v → Declares name t v

theorem told_findFirst? (name t : Text) :
    Told name t ((findFirst? (property? name) t).map Prod.fst) := by
  have hfirst : ∀ v, (findFirst? (property? name) t).map Prod.fst = some v ↔
      ∃ p : Occurrence name t, p.value = v ∧ p.IsFirst := fun v => findFirst?_property?_eq_some_iff
  have hdeclared : ∀ v, (findFirst? (property? name) t).map Prod.fst = some v →
      (Declares name t v ↔ ∃ p : Occurrence name t, p.IsOwn ∧ p.value = v) := by
    intro v hv
    obtain ⟨p, rfl, -⟩ := (hfirst v).1 hv
    exact declares_iff p.ne_nil p.free
  refine ⟨hfirst, findFirst?_property?_eq_none_iff, hdeclared, fun hown v hv => ?_⟩
  obtain ⟨p, hp, hpfirst⟩ := (hfirst v).1 hv
  exact (hdeclared v hv).2 ⟨p, hown p hpfirst, hp⟩

/-- The facts of a widget whose entry file can be read. -/
structure FactsTold (d : Disk) (unit : Path) (t : Text) (declaredId displayName : Option Text) :
    Prop where
  facts : entryFacts d unit = .ok (declaredId, displayName)
  id : Told "id" t declaredId
  name : Told "name" t displayName
  /-- A widget that is found there has these facts, and its hooks begin with the identifier, or
  with its name in lower case if there is none. -/
  widget : ∀ s entity widgetName root u, s.inWorkspace (.ofText root) = .ok unit →
    widgetAt? d s entity widgetName root = .ok (some u) →
      u.declaredId = declaredId ∧ u.displayName = displayName ∧
        u.sectionId = declaredId.getD (Text.lower widgetName)

/-- A widget that is found has the facts of its entry file. -/
theorem facts_of_widgetAt? {d : Disk} {s : Settings} {unit : Path} {entity widgetName root : Text}
    {u : UiUnit} {declaredId displayName : Option Text}
    (hunit : s.inWorkspace (.ofText root) = .ok unit)
    (hfacts : entryFacts d unit = .ok (declaredId, displayName))
    (h : widgetAt? d s entity widgetName root = .ok (some u)) :
    u.declaredId = declaredId ∧ u.displayName = displayName ∧ u.name = widgetName := by
  obtain ⟨path, hpath, h⟩ := Except.bind_eq_ok.1 h
  obtain rfl := Except.ok.inj (hunit.symm.trans hpath)
  obtain ⟨entry, -, h⟩ := Except.bind_eq_ok.1 h
  split at h
  · cases h
  · obtain ⟨facts', hfacts', h⟩ := Except.bind_eq_ok.1 h
    obtain rfl := Except.ok.inj (hfacts.symm.trans hfacts')
    obtain ⟨packageRoot, -, h⟩ := Except.bind_eq_ok.1 h
    obtain ⟨files, -, h⟩ := Except.bind_eq_ok.1 h
    obtain rfl := Option.some.inj (Except.ok.inj h)
    exact ⟨rfl, rfl, rfl⟩

/-- An identifier that was found counts for the hooks: it is not empty. -/
theorem Told.sectionId_eq {u : UiUnit} {found : Option Text} (h : Told name t found)
    (hu : u.declaredId = found) : u.sectionId = found.getD (Text.lower u.name) := by
  rw [UiUnit.sectionId, hu]
  cases hfound : found with
  | none => rfl
  | some v =>
    obtain ⟨p, rfl, -⟩ := (h.first v).1 hfound
    exact if_neg fun hempty => p.ne_nil (List.isEmpty_iff.1 hempty)

/-- **The facts of a widget are told by the text of its entry file.** -/
theorem facts_told {d : Disk} {unit path : Path} {t : Text}
    (hentry : entryFile? d unit = .ok (some path)) (hread : d.readText? path = .ok (some t)) :
    ∃ declaredId displayName, FactsTold d unit t declaredId displayName := by
  have hid := told_findFirst? "id" t
  have hname := told_findFirst? "name" t
  have hfacts : entryFacts d unit = .ok ((findFirst? (property? "id") t).map Prod.fst,
      (findFirst? (property? "name") t).map Prod.fst) := by
    rw [entryFacts, hentry]
    change (d.readText? path >>= _) = _
    rw [hread]
    rfl
  refine ⟨_, _, hfacts, hid, hname, fun s entity widgetName root u hunit hu => ?_⟩
  obtain ⟨hdeclared, hdisplay, hnamed⟩ := facts_of_widgetAt? hunit hfacts hu
  exact ⟨hdeclared, hdisplay, hnamed ▸ hid.sectionId_eq hdeclared⟩

/-- A widget whose entry file is the given text. -/
def entryDisk (t : Text) : Disk :=
  { entries := Table.ofList [("/w", .directory), ("/w/index.ts", .file (Text.encode t))] }

/-- The case of an entry file with the two properties. -/
theorem facts_told_foo :
    entryFile? (entryDisk "id: 'foo', name: 'Foo'") (.ofText "w") =
        .ok (some (.ofText "w/index.ts")) ∧
      (entryDisk "id: 'foo', name: 'Foo'").readText? (.ofText "w/index.ts") =
        .ok (some "id: 'foo', name: 'Foo'") ∧
      ∃ declaredId displayName, FactsTold (entryDisk "id: 'foo', name: 'Foo'") (.ofText "w")
        "id: 'foo', name: 'Foo'" declaredId displayName := by
  have hentry : entryFile? (entryDisk "id: 'foo', name: 'Foo'") (.ofText "w") =
      .ok (some (.ofText "w/index.ts")) := by rfl
  have hread : (entryDisk "id: 'foo', name: 'Foo'").readText? (.ofText "w/index.ts") =
      .ok (some "id: 'foo', name: 'Foo'") := by rfl
  exact ⟨hentry, hread, facts_told hentry hread⟩

/-! ## 4.  What is not declared -/

/-- Whatever is found in an entry file is declared there. -/
def AllDeclared : Prop :=
  ∀ d unit path t facts, entryFile? d unit = .ok (some path) →
    d.readText? path = .ok (some t) → entryFacts d unit = .ok facts →
      (∀ v, facts.1 = some v → Declares "id" t v) ∧ ∀ v, facts.2 = some v → Declares "name" t v

/-- **A fact need not be declared**: the word may be the end of a longer one. -/
theorem not_allDeclared : ¬ AllDeclared := by
  have hentry : entryFile? (entryDisk "uuid: 'u'") (.ofText "w") =
      .ok (some (.ofText "w/index.ts")) := by rfl
  have hread : (entryDisk "uuid: 'u'").readText? (.ofText "w/index.ts") =
      .ok (some "uuid: 'u'") := by rfl
  have hfacts : entryFacts (entryDisk "uuid: 'u'") (.ofText "w") = .ok (some "u", none) := by rfl
  intro hall
  obtain ⟨before, blanks, q, behind, ht, hwhole, -, -, -⟩ :=
    (hall _ _ _ _ _ hentry hread hfacts).1 "u" rfl
  -- the letter that the word begins with stands at one place only, behind another letter
  have hletter : ∀ i < 9, "uuid: 'u'".toList[i]? = some 'i' → i = 2 := by decide
  have hget : "uuid: 'u'".toList[before.length]? = some 'i' := by
    rw [ht, List.getElem?_append_right (Nat.le_refl _), Nat.sub_self]
    rfl
  have hlength : before.length = 2 :=
    hletter _ (List.getElem?_eq_some_iff.1 hget).1 hget
  have htake : before = ['u', 'u'] := by
    have htake := congrArg (List.take 2) ht
    rw [← hlength, List.take_left, hlength] at htake
    exact htake.symm
  exact absurd (hwhole 'u' (by rw [htake]; rfl)) (by decide)

end UiHarness.Detection
