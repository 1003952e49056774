import UiHarness.Proofs.Generation.Preservation

/-!
# Which reported changes reach the disk

The hooks are reported by the names of the sources, but only the paths of the changed sources are
handed to the writing, which takes for each path the first name that has it.  A file that is known
under two names is written back with the text of the first one, even if it was the other one that
got the hooks.

So a reported change is on the disk if no other name has its path and no other write of the unit
leads to its place, and in general exactly if the last write that leads there has its text.

* `Hook.told_of_result`: a source that is reported as changed has its new text in the unit, and the
  changed paths are those of these sources.
* `Artifact.exists_sourceAt`: what a writing that succeeds takes for a changed path.
* `Generation.Delivery`: what becomes of a reported change.
* `Generation.delivered_iff`: when it is on the disk in the end.
-/

namespace UiHarness

/-! ## 1.  Reports -/

namespace Hook

/-- What is known of the reports: a source that is reported as changed has its new text, and the
changed paths are those of these reports, in order. -/
structure Told (u : UiUnit) (p : Progress) : Prop where
  updates : ∀ r ∈ p.reports, r.isModified = true → ∃ t, Rewritten u r.name r.path t ∧
    p.updates.get? r.name = some t.code
  modified : p.summary.modified = (p.reports.filter (·.isModified)).map (·.path)

theorem told_empty (u : UiUnit) : Told u {} := ⟨fun _ h => absurd h List.not_mem_nil, rfl⟩

/-- What was told stays so, since each source is changed in one way only. -/
theorem Told.add {u : UiUnit} {p : Progress} {trial : Bool} {name path : Text} {t : Transform}
    (h : Told u p) (ht : t.isModified = true → Rewritten u name path t) :
    Told u (p.add trial name path t) := by
  refine ⟨fun r hr hm => ?_, ?_⟩
  · simp only [Progress.add, List.mem_append, List.mem_singleton] at hr ⊢
    rcases hr with hr | rfl
    · obtain ⟨t', ht', hupdate⟩ := h.updates r hr hm
      refine ⟨t', ht', ?_⟩
      split
      · rename_i hchanged
        rw [Table.get?_insert]
        split
        · rename_i hname
          have hnamed : Rewritten u r.name path t := hname ▸ ht hchanged
          rw [(hnamed.unique ht').2]
        · exact hupdate
      · exact hupdate
    · have hchanged : t.isModified = true := hm
      rw [if_pos hchanged, Table.get?_insert, if_pos rfl]
      exact ⟨t, ht hchanged, rfl⟩
  · simp only [Progress.add, List.filter_append, List.map_append, ← h.modified]
    cases t.isModified with
    | true => rfl
    | false => exact (List.append_nil _).symm

theorem Told.after {u : UiUnit} {trial required : Bool} {p p' : Progress} {name : Text}
    (h : Told u p) (hp : p.after u trial required name = .ok p') : Told u p' := by
  rcases after_cases hp with ⟨-, rfl⟩ | ⟨path, code, hpath, hcode, hrest⟩
  · exact h
  · rcases hrest with ⟨-, rfl, -⟩ | ⟨t, ht, ⟨-, rfl⟩ | rfl⟩
    · exact h
    · exact h
    · refine h.add fun hm => ?_
      obtain ⟨rfl, -⟩ := transform_scattered ht hm
      exact ⟨hpath, ⟨code, hcode, ht⟩, hm⟩

/-- **What is reported of the sources of a unit** is told of all of them. -/
theorem told_of_result {u : UiUnit} {trial : Bool} {p : Progress} (h : result u trial = .ok p) :
    Told u p := by
  obtain ⟨p', hprimary, hothers⟩ := Except.bind_eq_ok.1 h
  exact Except.foldlM_induction (fun _ _ _ _ hb hstep => hb.after hstep)
    (Except.foldlM_induction (fun _ _ _ _ hb hstep => hb.after hstep) (told_empty u) hprimary)
    hothers

/-- The path of a source that is reported as changed is among the changed ones. -/
theorem Told.mem_modified {u : UiUnit} {p : Progress} (h : Told u p) {r : SourceReport}
    (hr : r ∈ p.reports) (hm : r.isModified = true) : r.path ∈ p.summary.modified := by
  rw [h.modified]
  exact List.mem_map_of_mem (List.mem_filter.2 ⟨hr, hm⟩)

/-- If there are changed paths, one of the sources is reported as changed. -/
theorem Told.exists_report {u : UiUnit} {p : Progress} (h : Told u p) {path : Text}
    (hpath : path ∈ p.summary.modified) : ∃ r ∈ p.reports, r.isModified = true ∧ r.path = path := by
  rw [h.modified] at hpath
  obtain ⟨r, hr, rfl⟩ := List.mem_map.1 hpath
  obtain ⟨hmem, hm⟩ := List.mem_filter.1 hr
  exact ⟨r, hmem, hm, rfl⟩

end Hook

/-! ## 2.  What is written back -/

/-- The place of a write holds the text of the last write that leads there. -/
theorem Disk.Wrote.exists_last {d d' : Disk} {ws : List Disk.Write} (h : Disk.Wrote d ws d')
    {x : Disk.Write} (hx : x ∈ ws) : ∃ l last, d'.locate x.1 = .ok l ∧
      d'.lastAt? l ws = some last ∧ d'.fileAt? l = some (Text.encode last) := by
  obtain ⟨l, hl⟩ := h.located x hx
  obtain ⟨last, hlast⟩ :=
    Disk.isSome_lastAt? hx (Disk.leadsTo_iff.2 ⟨l, hl, Location.Same.refl l⟩)
  refine ⟨l, last, hl, hlast, ?_⟩
  rw [h.files, hlast, Option.map_some, Option.some_or]

namespace Artifact

/-- Sources are written back only if none of the paths belongs to a name without text. -/
theorem exists_of_saveSources {d : Disk} {u : UiUnit} {modified : List Text}
    (h : (saveSources d u modified).2 = .ok ()) :
    ∀ path ∈ modified, ∃ found, sourceAt u path = .ok found := by
  induction modified generalizing d with
  | nil => exact fun _ hp => absurd hp List.not_mem_nil
  | cons path rest ih =>
    rw [saveSources] at h
    have hstep : (∃ found, sourceAt u path = .ok found) ∧
        ∃ d', (saveSources d' u rest).2 = .ok () := by
      split at h
      · cases h
      · rename_i hsource
        exact ⟨⟨none, hsource⟩, d, h⟩
      · rename_i t hsource
        refine ⟨⟨some t, hsource⟩, ?_⟩
        split at h
        · rename_i d' _
          exact ⟨d', h⟩
        · cases h
    obtain ⟨hfirst, d', hrest⟩ := hstep
    intro p hp
    rcases List.mem_cons.1 hp with rfl | hp
    · exact hfirst
    · exact ih hrest p hp

theorem exists_of_write {d : Disk} {s : Settings} {u : UiUnit} {interactor test : Text}
    {modified : List Text} {paths : Paths} (hdry : s.isDryRun = false)
    (h : (write d s u interactor test modified).2 = .ok paths) :
    ∀ path ∈ modified, ∃ found, sourceAt u path = .ok found := by
  rw [write] at h
  cases hpaths : pathsOf s u with
  | error f =>
    rw [hpaths] at h
    cases h
  | ok paths' =>
    rw [hpaths] at h
    dsimp only at h
    rw [hdry, if_neg Bool.false_ne_true] at h
    cases hsave : saveSources d u modified with
    | mk d' r =>
      rw [hsave] at h
      cases r with
      | error f => cases h
      | ok _ => exact exists_of_saveSources (congrArg Prod.snd hsave)

/-- **What a writing that succeeds takes for a changed path**: the text of the first name that has
this path. -/
theorem exists_sourceAt {u u' : UiUnit} {modified : List Text} (ho : Hook.Outcome u u' modified)
    (hok : ∀ path ∈ modified, ∃ found, sourceAt u' path = .ok found) {path : Text}
    (hp : path ∈ modified) : ∃ key code, keyOf? path u.paths.entries = some key ∧
      u'.sources.get? key = some code ∧ sourceAt u' path = .ok (some code) := by
  obtain ⟨name, t, ht, -⟩ := ho.rewritten path hp
  obtain ⟨key, hkey⟩ := exists_keyOf? (Table.get?_eq_some.1 ht.located)
  obtain ⟨found, hfound⟩ := hok path hp
  have hsource := hfound
  rw [sourceAt, ho.paths, hkey] at hsource
  dsimp only at hsource
  cases hget : u'.sources.get? key with
  | none =>
    rw [hget] at hsource
    cases hsource
  | some code =>
    rw [hget] at hsource
    obtain rfl := Except.ok.inj hsource
    exact ⟨key, code, hkey, hget, hfound⟩

end Artifact

/-! ## 3.  Reported changes -/

namespace Generation

open Disk

/-- A unit that was served has for each changed path a text that was written back. -/
theorem sources_of_serve {s : Settings} {u : UiUnit} {session : Session} {served : Served}
    {w : Prepared} (hdry : s.isDryRun = false)
    (h : ((serve s u).outcome session).1 = .ok served)
    (hw : ((prepare s u).outcome session).1 = .ok w) :
    ∀ path ∈ w.hooks.modified, ∃ found, Artifact.sourceAt w.unit path = .ok found := by
  rw [serve_eq, Job.outcome_bind] at h
  cases hp : (prepare s u).outcome session with
  | mk r session' =>
    rw [hp] at h hw
    obtain rfl : r = .ok w := hw
    exact Artifact.exists_of_write hdry (finish_ok h).1

/-- A unit that is prepared with hooks holds what came of its sources. -/
theorem result_of_prepare {s : Settings} {u : UiUnit} {session : Session} {w : Prepared}
    (hhooks : s.skipsHooks.isTrue = false) (hw : ((prepare s u).outcome session).1 = .ok w) :
    ∃ p, Hook.result u s.isDryRun = .ok p ∧ w.unit = u.updated p.updates ∧ w.hooks = p.summary := by
  have hgives : (prepare s u).Gives w := ⟨session, _, Prod.ext hw rfl⟩
  rcases cases_of_giveHooks (giveHooks_of_prepare hgives) with ⟨hskips, -⟩ | ⟨-, hresult⟩
  · rw [hhooks] at hskips
    cases hskips
  · exact hresult

/-- A source that is reported as changed has its new text in what is prepared, and its path is
handed on to the writing. -/
theorem exists_rewritten {s : Settings} {u u' : UiUnit} {session : Session} {w : Prepared}
    {verbose : Bool} {summary : Hook.Summary} {reports : List Hook.SourceReport}
    {r : Hook.SourceReport} (hdry : s.isDryRun = false) (hhooks : s.skipsHooks.isTrue = false)
    (hw : ((prepare s u).outcome session).1 = .ok w)
    (hinject : (Hook.inject u false verbose).outcome.2 = .ok (u', summary, reports))
    (hr : r ∈ reports) (hm : r.isModified = true) :
    ∃ t, Hook.Rewritten u r.name r.path t ∧ w.unit.sources.get? r.name = some t.code ∧
      r.path ∈ w.hooks.modified := by
  obtain ⟨p, hp, hunit, hsummary⟩ := result_of_prepare hhooks hw
  obtain ⟨p', hp', -, -, rfl⟩ := Hook.inject_eq_ok.1 hinject
  rw [hdry, hp'] at hp
  obtain rfl := Except.ok.inj hp
  have htold := Hook.told_of_result hp'
  obtain ⟨t, ht, hupdate⟩ := htold.updates r hr hm
  obtain ⟨old, hold, -⟩ := ht.source
  refine ⟨t, ht, ?_, ?_⟩
  · rw [hunit, Hook.get?_updated, hold, Option.map_some, hupdate, Option.getD_some]
  · rw [hsummary]
    exact htold.mem_modified hr hm

/-- All writes that are made for a unit that was served. -/
def writesOf (served : Served) (w : Prepared) : List Write :=
  Artifact.sourceWrites w.unit served.hooks.modified ++
    [(served.paths.interactor, w.interactor), (served.paths.test, w.test)]

theorem wrote_writesOf {s : Settings} {u : UiUnit} {session : Session} {served : Served}
    {w : Prepared} (hdry : s.isDryRun = false) (hw : Wrote s u session served w) :
    Disk.Wrote session.disk (writesOf served w) ((serve s u).outcome session).2.disk := by
  have hwrote := serve_wrote s u session
  rwa [hw.made, hdry, if_neg Bool.false_ne_true, ← hw.hooks] at hwrote

/-- For each changed path there is a write, with the text of the first name that has the path. -/
theorem exists_mem_writesOf {s : Settings} {u : UiUnit} {session : Session} {served : Served}
    {w : Prepared} (hdry : s.isDryRun = false)
    (hserve : ((serve s u).outcome session).1 = .ok served) (hw : Wrote s u session served w)
    {path : Text} (hpath : path ∈ served.hooks.modified) :
    ∃ key code, Artifact.keyOf? path u.paths.entries = some key ∧
      w.unit.sources.get? key = some code ∧ Artifact.sourceAt w.unit path = .ok (some code) ∧
      (Path.ofText path, code) ∈ writesOf served w := by
  have ho := hw.outcome
  have hok := sources_of_serve hdry hserve hw.prepared
  rw [← hw.hooks] at ho hok
  have hall : ∀ path ∈ served.hooks.modified,
      ∃ t, Artifact.sourceAt w.unit path = .ok (some t) := by
    intro path hpath
    obtain ⟨-, code, -, -, hsource⟩ := Artifact.exists_sourceAt ho hok hpath
    exact ⟨code, hsource⟩
  obtain ⟨key, code, hkey, hcode, hsource⟩ := Artifact.exists_sourceAt ho hok hpath
  exact ⟨key, code, hkey, hcode, hsource,
    List.mem_append_left _ (Artifact.mem_sourceWrites hall hpath hsource)⟩

/-- Besides a changed path, another one or that of a generated file leads to the same place. -/
def Contested (served : Served) (d : Disk) (path : Text) (l : Location) : Prop :=
  (∃ other ∈ served.hooks.modified, other ≠ path ∧ d.leadsTo (.ofText other) l = true) ∨
    d.leadsTo served.paths.interactor l = true ∨ d.leadsTo served.paths.test l = true

/-- The only text that is written to a place which is not contested is that of its path. -/
theorem eq_of_lastAt?_writesOf {served : Served} {w : Prepared} {d : Disk} {path : Text}
    {l : Location} {code last : Text} (hfree : ¬ Contested served d path l)
    (hsource : Artifact.sourceAt w.unit path = .ok (some code))
    (hlast : d.lastAt? l (writesOf served w) = some last) : last = code := by
  obtain ⟨p, hmem, hleads⟩ := exists_of_lastAt? hlast
  rw [writesOf, List.mem_append, List.mem_cons, List.mem_singleton] at hmem
  rcases hmem with hmem | hmem | hmem
  · obtain ⟨other, hother, hp, htext⟩ := Artifact.of_mem_sourceWrites hmem
    obtain rfl : p = .ofText other := hp
    have hsame : other = path := Classical.byContradiction fun hne =>
      hfree (.inl ⟨other, hother, hne, hleads⟩)
    rw [hsame, hsource] at htext
    exact (Option.some.inj (Except.ok.inj htext)).symm
  · obtain ⟨rfl, -⟩ := Prod.mk.inj hmem
    exact absurd (.inr (.inl hleads)) hfree
  · obtain ⟨rfl, -⟩ := Prod.mk.inj hmem
    exact absurd (.inr (.inr hleads)) hfree

/-- What becomes of a change that is reported of a source.  Its text with hooks is that of `t`, its
path leads to `l` in the end, and `code` is the text that is written back to this path. -/
structure Delivery (s : Settings) (u : UiUnit) (session session' : Session) (served : Served)
    (w : Prepared) (r : Hook.SourceReport) (t : Hook.Transform) (l : Location) (code : Text) :
    Prop where
  prepared : ((prepare s u).outcome session).1 = .ok w
  rewritten : Hook.Rewritten u r.name r.path t
  listed : r.path ∈ served.hooks.modified
  located : session'.disk.locate (.ofText r.path) = .ok l
  /-- What is written back is the text of the first name with this path. -/
  first : ∃ key, Artifact.keyOf? r.path u.paths.entries = some key ∧
    w.unit.sources.get? key = some code
  /-- The change is on the disk exactly if the last write that leads to its place has its text. -/
  held_iff : session'.disk.fileAt? l = some (Text.encode t.code) ↔
    session'.disk.lastAt? l (writesOf served w) = some t.code
  /-- Unless other writes lead there, the file holds what is written back to the path, so the change
  is on the disk exactly if this is its text. -/
  alone : ¬ Contested served session'.disk r.path l →
    session'.disk.fileAt? l = some (Text.encode code) ∧
      (session'.disk.fileAt? l = some (Text.encode t.code) ↔ code = t.code)
  /-- It is, if no other name has the path. -/
  only : (∀ key, u.paths.get? key = some r.path → key = r.name) → code = t.code

/-- **When a reported change is on the disk.**  For every unit that is served with hooks and not in
a trial run, the text of each source that is reported as changed is in its file in the end exactly
if the last write to its place has this text; if nothing else is written there, exactly if the first
name with its path has this text, and so in any case if it is the only name with this path. -/
theorem delivered_iff {s : Settings} {u u' : UiUnit} {session session' : Session} {g : Generation}
    {served : Served} {verbose : Bool} {summary : Hook.Summary} {reports : List Hook.SourceReport}
    {r : Hook.SourceReport} (hdry : s.isDryRun = false) (hhooks : s.skipsHooks.isTrue = false)
    (hrun : (ofUnit s u).outcome session = (.ok g, session')) (hg : g.outcome = .ok served)
    (hinject : (Hook.inject u false verbose).outcome.2 = .ok (u', summary, reports))
    (hr : r ∈ reports) (hm : r.isModified = true) :
    ∃ w t l code, Delivery s u session session' served w r t l code := by
  have hserve : ((serve s u).outcome session).1 = .ok served := by
    rw [← (outcome_ofUnit (congrArg Prod.fst hrun)).2, hg]
  have hd' : session'.disk = ((serve s u).outcome session).2.disk := by
    rw [← disk_ofUnit, hrun]
  obtain ⟨w, hw⟩ := wrote_of_serve hserve
  have hwrote := wrote_writesOf hdry hw
  rw [← hd'] at hwrote
  obtain ⟨t, ht, hnew, hlisted⟩ := exists_rewritten hdry hhooks hw.prepared hinject hr hm
  rw [← hw.hooks] at hlisted
  -- what is written back to the path need not be the text of this name
  obtain ⟨key, code, hkey, hcode, hsource, hmem⟩ := exists_mem_writesOf hdry hserve hw hlisted
  obtain ⟨l, last, hl, hlast, hfile⟩ := hwrote.exists_last hmem
  have hiff : ∀ text, session'.disk.fileAt? l = some (Text.encode text) ↔ last = text := by
    intro text
    rw [hfile, Option.some.injEq]
    exact ⟨Text.encode_injective, fun h => h ▸ rfl⟩
  refine ⟨w, t, l, code, hw.prepared, ht, hlisted, hl, ⟨key, hkey, hcode⟩, ?_, fun hfree => ?_,
    fun honly => ?_⟩
  · rw [hiff, hlast, Option.some.injEq]
  · obtain rfl := eq_of_lastAt?_writesOf hfree hsource hlast
    exact ⟨hfile, hiff t.code⟩
  · have hname := honly key (Table.get?_eq_some.2 (Artifact.of_keyOf? hkey))
    rw [hname, hnew] at hcode
    exact (Option.some.inj hcode).symm

/-- A source with one element. -/
def twiceCode : Text := "import A from \"ui\";<A/>"

/-- A workspace with one widget. -/
def twiceDisk : Disk :=
  { entries := Table.ofList [("/s", .directory), ("/s/e", .directory), ("/s/e/W", .directory),
      ("/s/e/W/index.tsx", .file (Text.encode twiceCode))] }

/-- The widget, whose entry file is known under two names. -/
def twiceUnit : UiUnit := {
  kind := .widget
  name := "W"
  category := "e"
  root := "s/e/W"
  declaredId := none
  displayName := none
  sources := Table.ofList [("index".toList, twiceCode), ([], twiceCode)]
  paths := Table.ofList [("index".toList, "s/e/W/index.tsx".toList),
    ([], "s/e/W/index.tsx".toList)]
  route := none
  tabs := []
  located := by decide }

/-- A session in that workspace. -/
def twiceSession : Session := { shortSession with disk := twiceDisk }

/-- The case of this widget: a change is reported of the second name, and the file holds the text of
the first one, without hooks. -/
theorem delivered_iff_twice : ∃ g session' served u' summary reports r w t l code,
    (ofUnit shortSettings twiceUnit).outcome twiceSession = (.ok g, session') ∧
    g.outcome = .ok served ∧
    (Hook.inject twiceUnit false false).outcome.2 = .ok (u', summary, reports) ∧ r ∈ reports ∧
    r.isModified = true ∧
    session'.disk.fileAt? ["s", "e", "W", "index.tsx"] = some (Text.encode twiceCode) ∧
    Delivery shortSettings twiceUnit twiceSession session' served w r t l code := by
  have hserved : (let after := (ofUnit shortSettings twiceUnit).outcome twiceSession
      after.1.toOption.any fun g => g.outcome.toOption.any fun served =>
        "s/e/W/index.tsx".toList ∈ served.hooks.modified &&
          (after.2.disk.fileAt? ["s", "e", "W", "index.tsx"]).any fun file =>
            file.data.toList == Text.bytes twiceCode) = true := by
    decide +kernel
  cases hrun : (ofUnit shortSettings twiceUnit).outcome twiceSession with
  | mk result session' =>
    rw [hrun] at hserved
    obtain ⟨g, rfl, hserved⟩ := Except.exists_of_any hserved
    obtain ⟨served, hg, hserved⟩ := Except.exists_of_any hserved
    rw [Bool.and_eq_true, decide_eq_true_eq] at hserved
    obtain ⟨hpath, hserved⟩ := hserved
    obtain ⟨file, hfile, hbytes⟩ := (Option.any_eq_true _ _).1 hserved
    have hcode := Text.encode_eq_of_bytes (eq_of_beq hbytes).symm
    -- the changed path is that of a report
    have hserve := (outcome_ofUnit (congrArg Prod.fst hrun)).2.symm.trans hg
    obtain ⟨w, hw⟩ := wrote_of_serve hserve
    obtain ⟨p, hp, -, hsummary⟩ := result_of_prepare rfl hw.prepared
    rw [hw.hooks, hsummary] at hpath
    obtain ⟨r, hr, hm, -⟩ := (Hook.told_of_result hp).exists_report hpath
    have hinject : (Hook.inject twiceUnit false false).outcome.2 =
        .ok (twiceUnit.updated p.updates, p.summary, p.reports) :=
      Hook.inject_eq_ok.2 ⟨p, hp, rfl, rfl, rfl⟩
    obtain ⟨w, t, l, code, hdelivery⟩ := delivered_iff rfl rfl hrun hg hinject hr hm
    exact ⟨g, session', served, _, _, _, r, w, t, l, code, rfl, hg, hinject, hr, hm,
      hfile.trans (congrArg some hcode.symm), hdelivery⟩

end Generation

end UiHarness
