import UiHarness.Generation
import UiHarness.Proofs.Fence
import UiHarness.Proofs.Json.Limits
import UiHarness.Proofs.Steps

/-!
# What an analysis makes of a reply

The reply to the question for an analysis can be any text.  Its JSON counts if it has all flags of
the unit, and otherwise the words of the sources decide, so most defects of a reply do no harm.  Two
of them end the work on the unit.  JSON that is sound but meets a limit of the reader is not taken
for a defect.  And the tabs of a page are gone through whenever they hold as a condition, before it
is asked whether they have members at all: `true` and numbers other than zero have none.

* `Payload.HasFlags`: a payload counts.
* `WidgetAnalysis.exists_ofPayload?`, `PageAnalysis.exists_ofPayload?`: what it tells then.
* `Generation.Answered`: what becomes of a reply.
* `Generation.analysis_of_reply`: when an analysis fails, and what it is otherwise.
-/

namespace UiHarness

/-! ## 1.  Payloads -/

namespace Payload

/-- A payload has a truth value for each of some keys. -/
def HasFlags (payload : Value) (keys : List Text) : Prop :=
  ∀ key ∈ keys, ∃ b, payload.get? key = some (.bool b)

theorem flag?_eq_some {payload : Value} {key : Text} {b : Bool} :
    flag? payload key = some b ↔ payload.get? key = some (.bool b) := by
  rw [flag?, Option.bind_eq_some_iff]
  constructor
  · rintro ⟨v, hv, hb⟩
    cases v with
    | bool b' => rw [hv, Option.some.inj hb]
    | _ => cases hb
  · exact fun h => ⟨_, h, rfl⟩

end Payload

namespace Value

/-- A value is a table. -/
def IsTable (v : Value) : Prop := ∃ es, v = .table es

/-- A value has members: it is a list, a table or a text. -/
def HasMembers (v : Value) : Prop :=
  (∃ vs, v = .list vs) ∨ (∃ es, v = .table es) ∨ ∃ t, v = .text t

/-- The members of a value are those that it has, or else they cannot be gone through. -/
theorem members_cases (v : Value) :
    (v.HasMembers ∧ ∃ vs, v.members = .ok vs) ∨
      (¬ v.HasMembers ∧ v.members = .error (notIterable v)) := by
  cases v with
  | list vs => exact .inl ⟨.inl ⟨vs, rfl⟩, _, rfl⟩
  | table es => exact .inl ⟨.inr (.inl ⟨es, rfl⟩), _, rfl⟩
  | text t => exact .inl ⟨.inr (.inr ⟨t, rfl⟩), _, rfl⟩
  | _ =>
    refine .inr ⟨?_, rfl⟩
    rintro (⟨_, h⟩ | ⟨_, h⟩ | ⟨_, h⟩) <;> cases h

end Value

namespace WidgetAnalysis

/-- The keys of the flags of a widget. -/
def flags : List Text :=
  ["hasTable", "hasChart", "hasSearch", "hasPagination", "hasExternalLinks", "hasDownloader"]

theorem forall_mem_flags {P : Text → Prop} : (∀ key ∈ flags, P key) ↔
    P "hasTable" ∧ P "hasChart" ∧ P "hasSearch" ∧ P "hasPagination" ∧ P "hasExternalLinks" ∧
      P "hasDownloader" := by
  simp only [flags, List.forall_mem_cons, List.not_mem_nil, false_imp_iff, implies_true, and_true]

/-- A payload with all flags tells an analysis, which has these flags. -/
theorem exists_ofPayload? {p : Value} (h : Payload.HasFlags p flags) :
    ∃ a, ofPayload? p = some a ∧ ∀ key ∈ flags, a.toPayload.get? key = p.get? key := by
  obtain ⟨⟨table, h₁⟩, ⟨chart, h₂⟩, ⟨search, h₃⟩, ⟨pages, h₄⟩, ⟨links, h₅⟩, loader, h₆⟩ :=
    forall_mem_flags.1 h
  simp only [ofPayload?, Payload.flag?_eq_some.2 h₁, Payload.flag?_eq_some.2 h₂,
    Payload.flag?_eq_some.2 h₃, Payload.flag?_eq_some.2 h₄, Payload.flag?_eq_some.2 h₅,
    Payload.flag?_eq_some.2 h₆, Option.bind_eq_bind, Option.bind_some]
  exact ⟨_, rfl, forall_mem_flags.2 ⟨h₁.symm, h₂.symm, h₃.symm, h₄.symm, h₅.symm, h₆.symm⟩⟩

/-- A payload without a flag tells none. -/
theorem ofPayload?_eq_none {p : Value} (h : ¬ Payload.HasFlags p flags) : ofPayload? p = none := by
  rw [Option.eq_none_iff_forall_ne_some]
  intro a ha
  simp only [ofPayload?, Option.bind_eq_bind, Option.bind_eq_some_iff, Payload.flag?_eq_some] at ha
  obtain ⟨_, h₁, _, h₂, _, h₃, _, h₄, _, h₅, _, h₆, -⟩ := ha
  exact h (forall_mem_flags.2 ⟨⟨_, h₁⟩, ⟨_, h₂⟩, ⟨_, h₃⟩, ⟨_, h₄⟩, ⟨_, h₅⟩, _, h₆⟩)

end WidgetAnalysis

namespace PageAnalysis

/-- The keys of the flags of a page. -/
def flags : List Text := ["hasTabs", "hasExternalLinks", "hasQuery"]

theorem forall_mem_flags {P : Text → Prop} : (∀ key ∈ flags, P key) ↔
    P "hasTabs" ∧ P "hasExternalLinks" ∧ P "hasQuery" := by
  simp only [flags, List.forall_mem_cons, List.not_mem_nil, false_imp_iff, implies_true, and_true]

/-- What stands for the tabs in a payload holds as a condition but has no members. -/
def TabsUnlisted (p : Value) : Prop :=
  ∃ tabs, p.get? "tabs" = some tabs ∧ tabs.isTrue = true ∧ ¬ tabs.HasMembers

/-- Tabs can be gone through unless they have no members. -/
theorem tabsOf_cases (p : Value) :
    (¬ TabsUnlisted p ∧ ∃ tabs, tabsOf p = .ok tabs) ∨
      (TabsUnlisted p ∧ ∃ tabs, p.get? "tabs" = some tabs ∧
        tabsOf p = .error (Value.notIterable tabs)) := by
  unfold tabsOf
  cases hget : p.get? "tabs" with
  | none =>
    refine .inl ⟨fun ⟨tabs, hsome, _⟩ => ?_, [], rfl⟩
    rw [hget] at hsome
    cases hsome
  | some v =>
    have hv : ∀ tabs, p.get? "tabs" = some tabs → tabs = v := fun tabs h =>
      Option.some.inj (h.symm.trans hget)
    rw [Option.getD_some]
    by_cases htrue : v.isTrue = true
    · rw [if_pos htrue]
      rcases v.members_cases with ⟨hhas, vs, hmembers⟩ | ⟨hno, hmembers⟩
      · refine .inl ⟨fun ⟨tabs, hsome, _, hno⟩ => hno (hv tabs hsome ▸ hhas), ?_⟩
        rw [hmembers]
        exact ⟨_, rfl⟩
      · refine .inr ⟨⟨v, hget, htrue, hno⟩, v, rfl, ?_⟩
        rw [hmembers]
        rfl
    · refine .inl ⟨fun ⟨tabs, hsome, htabs, _⟩ => htrue (hv tabs hsome ▸ htabs), [], ?_⟩
      rw [if_neg htrue]

/-- A payload with all flags tells an analysis, which has these flags, unless its tabs cannot be
gone through. -/
theorem exists_ofPayload? {p : Value} (h : Payload.HasFlags p flags) (htabs : ¬ TabsUnlisted p) :
    ∃ a, ofPayload? p = .ok (some a) ∧ ∀ key ∈ flags, a.toPayload.get? key = p.get? key := by
  obtain ⟨⟨hasTabs, h₁⟩, ⟨hasLinks, h₂⟩, hasQuery, h₃⟩ := forall_mem_flags.1 h
  obtain ⟨tabs, hok⟩ := ((tabsOf_cases p).resolve_right fun hbad => htabs hbad.1).2
  unfold ofPayload?
  rw [Payload.flag?_eq_some.2 h₁, Payload.flag?_eq_some.2 h₂, Payload.flag?_eq_some.2 h₃, hok]
  exact ⟨_, rfl, forall_mem_flags.2 ⟨h₁.symm, h₂.symm, h₃.symm⟩⟩

/-- A payload with all flags is a fault if its tabs cannot be gone through. -/
theorem ofPayload?_eq_error {p : Value} (h : Payload.HasFlags p flags) (htabs : TabsUnlisted p) :
    ∃ tabs, p.get? "tabs" = some tabs ∧ ofPayload? p = .error (Value.notIterable tabs) := by
  obtain ⟨⟨hasTabs, h₁⟩, ⟨hasLinks, h₂⟩, hasQuery, h₃⟩ := forall_mem_flags.1 h
  obtain ⟨tabs, hget, herror⟩ := ((tabsOf_cases p).resolve_left fun hgood => hgood.1 htabs).2
  refine ⟨tabs, hget, ?_⟩
  unfold ofPayload?
  rw [Payload.flag?_eq_some.2 h₁, Payload.flag?_eq_some.2 h₂, Payload.flag?_eq_some.2 h₃, herror]
  rfl

/-- A number in the place of the tabs. -/
example : ofPayload? (.table [("hasTabs", .bool true), ("hasExternalLinks", .bool false),
    ("hasQuery", .bool true), ("tabs", .int 3)]) = .error (Value.notIterable (.int 3)) := rfl

/-- A payload without a flag tells none. -/
theorem ofPayload?_eq_none {p : Value} (h : ¬ Payload.HasFlags p flags) :
    ofPayload? p = .ok none := by
  unfold ofPayload?
  split
  · rename_i _ _ _ h₁ h₂ h₃
    exact absurd (forall_mem_flags.2 ⟨⟨_, Payload.flag?_eq_some.1 h₁⟩,
      ⟨_, Payload.flag?_eq_some.1 h₂⟩, _, Payload.flag?_eq_some.1 h₃⟩) h
  · rfl

end PageAnalysis

/-! ## 2.  Replies -/

namespace Fence

/-- A reply holds a value in JSON. -/
def Holds (reply : Text) (v : Value) : Prop :=
  ∃ t, jsonText? reply = some t ∧ Json.parse t = .ok v

/-- A reply holds JSON that meets a limit of the reader. -/
def TooLarge (reply : Text) : Prop :=
  ∃ t, jsonText? reply = some t ∧
    (Json.parse t = .error .tooDeep ∨ ∃ n, Json.parse t = .error (.longInteger n))

/-- A reply holds a value, or something that is no JSON, or JSON that is too large. -/
theorem json_cases (reply : Text) :
    (∃ v, Holds reply v ∧ json reply = .ok (some v)) ∨
      ((∀ v, ¬ Holds reply v) ∧ ¬ TooLarge reply ∧ json reply = .ok none) ∨
      (TooLarge reply ∧ ∃ f, json reply = .error f) := by
  unfold json
  cases htext : jsonText? reply with
  | none =>
    refine .inr (.inl ⟨fun v ⟨t, ht, _⟩ => ?_, fun ⟨t, ht, _⟩ => ?_, rfl⟩)
    · rw [htext] at ht
      cases ht
    · rw [htext] at ht
      cases ht
  | some t =>
    have hsame : ∀ s, jsonText? reply = some s → s = t := fun s h =>
      Option.some.inj (h.symm.trans htext)
    dsimp only
    cases hparse : Json.parse t with
    | ok v => exact .inl ⟨v, ⟨t, htext, hparse⟩, rfl⟩
    | error failure =>
      cases failure with
      | defect d rest =>
        refine .inr (.inl ⟨fun v ⟨s, hs, hv⟩ => ?_, fun ⟨s, hs, hlarge⟩ => ?_, rfl⟩)
        · rw [hsame s hs, hparse] at hv
          cases hv
        · rw [hsame s hs, hparse] at hlarge
          rcases hlarge with h | ⟨n, h⟩ <;> cases h
      | longInteger n => exact .inr (.inr ⟨⟨t, htext, .inr ⟨n, hparse⟩⟩, _, rfl⟩)
      | tooDeep => exact .inr (.inr ⟨⟨t, htext, .inl hparse⟩, _, rfl⟩)

/-- A reply holds one value at most, and none if its JSON is too large. -/
theorem Holds.unique {reply : Text} {v w : Value} (hv : Holds reply v) (hw : Holds reply w) :
    v = w := by
  obtain ⟨t, ht, hv⟩ := hv
  obtain ⟨s, hs, hw⟩ := hw
  rw [ht] at hs
  rw [← Option.some.inj hs, hv] at hw
  exact Except.ok.inj hw

theorem Holds.not_tooLarge {reply : Text} {v : Value} (hv : Holds reply v) : ¬ TooLarge reply := by
  obtain ⟨t, ht, hv⟩ := hv
  rintro ⟨s, hs, hlarge⟩
  rw [ht] at hs
  rw [← Option.some.inj hs, hv] at hlarge
  rcases hlarge with h | ⟨n, h⟩ <;> cases h

/-- **A reply with JSON that is too large** is large itself: it has a run of more digits than an
integer may have, or more brackets than members may be inside each other. -/
theorem TooLarge.of_reply {reply : Text} (h : TooLarge reply) :
    Json.HasLongRun reply ∨ Json.depthLimit < Json.brackets reply := by
  obtain ⟨t, ht, hlarge⟩ := h
  have hpart := infix_of_jsonText? ht
  rcases hlarge with hdeep | ⟨n, hlong⟩
  · exact .inr (Nat.lt_of_lt_of_le (Json.brackets_of_parse hdeep) (hpart.sublist.countP_le))
  · obtain ⟨ds, hds, hdigits, hlength⟩ := Json.hasLongRun_of_parse hlong
    exact .inl ⟨ds, hds.trans hpart, hdigits, hlength⟩

end Fence

/-! ## 3.  Analyses -/

namespace Generation

open Fence

/-- The keys of the flags that a payload for a unit must have. -/
def flagsOf (u : UiUnit) : List Text :=
  if u.isPage then PageAnalysis.flags else WidgetAnalysis.flags

/-- The analysis of a unit from the words that its sources hold. -/
def wordsOf (u : UiUnit) : Analysis :=
  if u.isPage then .page (.ofWords u u.allText) else .widget (.ofWords u.allText)

/-- An analysis is what a payload tells of a unit. -/
def Tells (u : UiUnit) (p : Value) : Analysis → Prop
  | .page a => u.isPage = true ∧ PageAnalysis.ofPayload? p = .ok (some a)
  | .widget a => u.isPage = false ∧ WidgetAnalysis.ofPayload? p = some a

/-- A payload for a page has all flags, but its tabs cannot be gone through. -/
def Unlisted (u : UiUnit) (p : Value) : Prop :=
  u.isPage = true ∧ Payload.HasFlags p (flagsOf u) ∧ PageAnalysis.TabsUnlisted p

/-- What becomes of a reply for a unit. -/
structure Answered (u : UiUnit) (reply : Text) (result : Except Fault Analysis) : Prop where
  /-- It is a fault in two cases only. -/
  fails_iff : (∃ f, result = .error f) ↔ TooLarge reply ∨ ∃ p, Holds reply p ∧ Unlisted u p
  /-- In the first case the reply is large. -/
  large : TooLarge reply → Json.HasLongRun reply ∨ Json.depthLimit < Json.brackets reply
  /-- In the second case the fault names the kind of the tabs. -/
  unlisted : ∀ p, Holds reply p → Unlisted u p →
    ∃ tabs, p.get? "tabs" = some tabs ∧ result = .error (Value.notIterable tabs)
  /-- Otherwise a payload with all flags is told, with these flags. -/
  told : ∀ p, Holds reply p → Payload.HasFlags p (flagsOf u) → ¬ Unlisted u p →
    ∃ a, result = .ok a ∧ Tells u p a ∧ ∀ key ∈ flagsOf u, a.toPayload.get? key = p.get? key
  /-- Without one the words of the sources decide. -/
  words : ¬ TooLarge reply → (∀ p, Holds reply p → ¬ Payload.HasFlags p (flagsOf u)) →
    result = .ok (wordsOf u)

/-- What an analysis makes of the value that a reply holds; of one that holds none, of nothing. -/
def ofPayload (u : UiUnit) (p : Value) : Except Fault Analysis := do
  if u.isPage then
    match ← PageAnalysis.ofPayload? p with
    | some a => .ok (.page a)
    | none => .ok (wordsOf u)
  else
    match WidgetAnalysis.ofPayload? p with
    | some a => .ok (.widget a)
    | none => .ok (wordsOf u)

theorem analysisOf_eq (u : UiUnit) (reply : Text) :
    analysisOf u reply = Fence.json reply >>= fun v => ofPayload u (v.getD .null) := by
  unfold analysisOf ofPayload wordsOf
  refine bind_congr fun v => ?_
  cases u.isPage
  · rfl
  · rfl

/-- A payload without a flag leaves the words. -/
theorem ofPayload_words {u : UiUnit} {p : Value} (h : ¬ Payload.HasFlags p (flagsOf u)) :
    ofPayload u p = .ok (wordsOf u) := by
  unfold ofPayload
  cases hpage : u.isPage with
  | true =>
    rw [flagsOf, hpage, if_pos rfl] at h
    rw [if_pos rfl, PageAnalysis.ofPayload?_eq_none h]
    rfl
  | false =>
    rw [flagsOf, hpage, if_neg Bool.false_ne_true] at h
    rw [if_neg Bool.false_ne_true, WidgetAnalysis.ofPayload?_eq_none h]

/-- A payload with all flags is told, unless its tabs cannot be gone through. -/
theorem ofPayload_told {u : UiUnit} {p : Value} (h : Payload.HasFlags p (flagsOf u))
    (hlisted : ¬ Unlisted u p) : ∃ a, ofPayload u p = .ok a ∧ Tells u p a ∧
      ∀ key ∈ flagsOf u, a.toPayload.get? key = p.get? key := by
  have hflags := h
  unfold ofPayload
  unfold flagsOf at hflags ⊢
  cases hpage : u.isPage with
  | true =>
    rw [hpage, if_pos rfl] at hflags
    have htabs : ¬ PageAnalysis.TabsUnlisted p := fun htabs => hlisted ⟨hpage, h, htabs⟩
    obtain ⟨a, ha, hkeys⟩ := PageAnalysis.exists_ofPayload? hflags htabs
    rw [if_pos rfl, if_pos rfl, ha]
    exact ⟨.page a, rfl, ⟨hpage, ha⟩, hkeys⟩
  | false =>
    rw [hpage, if_neg Bool.false_ne_true] at hflags
    obtain ⟨a, ha, hkeys⟩ := WidgetAnalysis.exists_ofPayload? hflags
    rw [if_neg Bool.false_ne_true, if_neg Bool.false_ne_true, ha]
    exact ⟨.widget a, rfl, ⟨hpage, ha⟩, hkeys⟩

/-- A payload for a page with tabs that cannot be gone through is a fault. -/
theorem ofPayload_unlisted {u : UiUnit} {p : Value} (h : Unlisted u p) :
    ∃ tabs, p.get? "tabs" = some tabs ∧ ofPayload u p = .error (Value.notIterable tabs) := by
  obtain ⟨hpage, hflags, htabs⟩ := h
  rw [flagsOf, if_pos hpage] at hflags
  obtain ⟨tabs, hget, herror⟩ := PageAnalysis.ofPayload?_eq_error hflags htabs
  refine ⟨tabs, hget, ?_⟩
  rw [ofPayload, if_pos hpage, herror]
  rfl

/-- A payload is a fault only if its tabs cannot be gone through. -/
theorem unlisted_of_ofPayload {u : UiUnit} {p : Value} {f : Fault}
    (h : ofPayload u p = .error f) : Unlisted u p := by
  by_contra hlisted
  by_cases hflags : Payload.HasFlags p (flagsOf u)
  · obtain ⟨a, ha, -⟩ := ofPayload_told hflags hlisted
    rw [ha] at h
    cases h
  · rw [ofPayload_words hflags] at h
    cases h

/-- A value that is nothing has no flags. -/
theorem not_hasFlags_null (u : UiUnit) : ¬ Payload.HasFlags .null (flagsOf u) := by
  have hsome : ∃ key, key ∈ flagsOf u := by
    unfold flagsOf
    split
    · exact ⟨_, List.mem_cons_self ..⟩
    · exact ⟨_, List.mem_cons_self ..⟩
  obtain ⟨key, hkey⟩ := hsome
  intro h
  obtain ⟨b, hb⟩ := h key hkey
  cases hb

/-- What becomes of a reply that holds a value. -/
theorem answered_of_holds {u : UiUnit} {reply : Text} {p : Value} (hp : Holds reply p) :
    Answered u reply (ofPayload u p) where
  fails_iff := by
    constructor
    · rintro ⟨f, hf⟩
      exact .inr ⟨p, hp, unlisted_of_ofPayload hf⟩
    · rintro (hlarge | ⟨q, hq, hunlisted⟩)
      · exact absurd hlarge hp.not_tooLarge
      · obtain ⟨tabs, -, herror⟩ := ofPayload_unlisted (hq.unique hp ▸ hunlisted)
        exact ⟨_, herror⟩
  large := TooLarge.of_reply
  unlisted q hq hunlisted := by
    obtain rfl := hq.unique hp
    exact ofPayload_unlisted hunlisted
  told q hq hflags hlisted := by
    obtain rfl := hq.unique hp
    exact ofPayload_told hflags hlisted
  words _ hnone := ofPayload_words (hnone p hp)

/-- What becomes of a reply that holds none. -/
theorem answered_of_none {u : UiUnit} {reply : Text} (hnone : ∀ p, ¬ Holds reply p)
    (hlarge : ¬ TooLarge reply) : Answered u reply (.ok (wordsOf u)) where
  fails_iff := by
    constructor
    · rintro ⟨f, hf⟩
      cases hf
    · rintro (h | ⟨p, hp, -⟩)
      · exact absurd h hlarge
      · exact absurd hp (hnone p)
  large := TooLarge.of_reply
  unlisted p hp := absurd hp (hnone p)
  told p hp := absurd hp (hnone p)
  words _ _ := rfl

/-- What becomes of a reply whose JSON is too large. -/
theorem answered_of_tooLarge {u : UiUnit} {reply : Text} {f : Fault} (h : TooLarge reply) :
    Answered u reply (.error f) where
  fails_iff := ⟨fun _ => .inl h, fun _ => ⟨f, rfl⟩⟩
  large := TooLarge.of_reply
  unlisted _ hp := absurd h hp.not_tooLarge
  told _ hp := absurd h hp.not_tooLarge
  words hlarge := absurd h hlarge

/-- **What becomes of a reply**, whatever it is. -/
theorem answered (u : UiUnit) (reply : Text) : Answered u reply (analysisOf u reply) := by
  rw [analysisOf_eq]
  rcases json_cases reply with ⟨p, hp, hjson⟩ | ⟨hnone, hlarge, hjson⟩ | ⟨hlarge, f, hjson⟩
  · rw [hjson]
    exact answered_of_holds hp
  · have hwords : (.ok none >>= fun v => ofPayload u (v.getD .null)) = .ok (wordsOf u) :=
      ofPayload_words (not_hasFlags_null u)
    rw [hjson, hwords]
    exact answered_of_none hnone hlarge
  · rw [hjson]
    exact answered_of_tooLarge hlarge

/-- The request for the analysis of a unit. -/
def askAnalysis (m : ModelSettings) (u : UiUnit) : Job Text :=
  Job.request m (Prompt.analysisRole u) (Prompt.analysis u) m.analysisMaxTokens

/-- **When an analysis fails, and what it is otherwise.**  A request that fails is passed on.  The
analysis from a reply is a fault exactly if the JSON of the reply is too large for the reader, or if
it has all flags of a page and tabs that hold but have no members; otherwise it is what the payload
tells if this has all flags, and it is made from the words of the sources if not. -/
theorem analysis_of_reply (m : ModelSettings) (u : UiUnit) (session : Session) :
    (∃ f session', (askAnalysis m u).outcome session = (.error f, session') ∧
      (analyze m u).outcome session = (.error f, session')) ∨
    ∃ reply session' result, (askAnalysis m u).outcome session = (.ok reply, session') ∧
      (analyze m u).outcome session = (result, session') ∧ Answered u reply result := by
  cases hask : (askAnalysis m u).outcome session with
  | mk r session' =>
    rw [askAnalysis] at hask
    cases r with
    | error f =>
      refine .inl ⟨f, session', rfl, ?_⟩
      rw [analyze, Job.outcome_bind, hask]
    | ok reply =>
      refine .inr ⟨reply, session', _, rfl, ?_, answered u reply⟩
      rw [analyze, Job.outcome_bind, hask]
      rfl

end Generation

end UiHarness
