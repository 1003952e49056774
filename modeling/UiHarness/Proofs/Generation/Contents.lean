import UiHarness.Proofs.Generation.Preservation

/-!
# What the generated files of a unit hold

The two generated files of a unit are written last, the interactor first.  The second one never
takes the place of the first one, whatever the name of the unit and whatever the roots in the
settings: the last parts of their paths are different, and paths of different last parts lead to
different places, even with pairs of dots on the way.  So after a unit was served both files hold
what was generated.

* `Artifact.apart`: the generated files of a unit are at different places.
* `Generation.Holds`, `Generation.holds_of_serve`: what they hold after the unit was served.
-/

namespace UiHarness

open Disk

/-! ## 1.  Two places -/

namespace UnitName

/-- What is left without an end: all of the text, or what stands around the end. -/
theorem withoutEnd_cases (t ending : Text) : withoutEnd t ending = t ∨
    ∃ front back, (back = [] ∨ back = ['\n']) ∧ t = front ++ (ending ++ back) ∧
      withoutEnd t ending = front ++ back := by
  have htake (back : Text) (h : Text.endsWith t (ending ++ back) = true) :
      t = t.take (t.length - (ending ++ back).length) ++ (ending ++ back) := by
    obtain ⟨front, rfl⟩ := List.isSuffixOf_iff_suffix.1 h
    rw [@List.length_append _ front, Nat.add_sub_cancel, List.take_left]
  rw [withoutEnd]
  split
  · rename_i h
    have ht := htake [] (by rw [List.append_nil]; exact h)
    rw [List.append_nil] at ht
    exact .inr ⟨_, [], .inl rfl, by rw [List.append_nil]; exact ht, (List.append_nil _).symm⟩
  · split
    · rename_i h
      refine .inr ⟨_, ['\n'], .inr rfl, htake ['\n'] h, ?_⟩
      rw [List.length_append, Nat.sub_add_eq]
      rfl
    · exact .inl rfl

/-- The names of the generated files of a page are those of a common beginning, which holds all
slashes, with endings of different lengths. -/
theorem exists_common_stem (name : Text) : ∃ stem ending ending' : Text,
    interactorStem name = stem ++ ending ∧ lowerFirst name = stem ++ ending' ∧
      ending.length ≤ ending'.length ∧ '/' ∉ ending ∧ '/' ∉ ending' := by
  cases name with
  | nil => exact ⟨[], [], [], rfl, rfl, Nat.le_refl _, List.not_mem_nil, List.not_mem_nil⟩
  | cons c rest =>
    have hstem : interactorStem (c :: rest) = Text.lower [c] ++ withoutEnd rest "Page" := rfl
    have hfirst : lowerFirst (c :: rest) = Text.lower [c] ++ rest := rfl
    rcases withoutEnd_cases rest "Page" with h | ⟨front, back, hback, hrest, h⟩
    · exact ⟨Text.lower [c] ++ rest, [], [], by rw [hstem, h, List.append_nil],
        by rw [hfirst, List.append_nil], Nat.le_refl _, List.not_mem_nil, List.not_mem_nil⟩
    · refine ⟨Text.lower [c] ++ front, back, "Page" ++ back, by rw [hstem, h, List.append_assoc],
        by rw [hfirst, List.append_assoc, ← hrest], ?_, ?_, ?_⟩
      · rw [List.length_append]
        exact Nat.le_add_left _ _
      · rcases hback with rfl | rfl <;> decide
      · rcases hback with rfl | rfl <;> decide

end UnitName

theorem Settings.clean_resolve {s : Settings} {v : Value} {p : Path} (h : s.resolve v = .ok p) :
    p.Clean := by
  obtain ⟨q, hq, h⟩ := Except.bind_eq_ok.1 h
  exact clean_inWorkspace (clean_pathOf hq) h

namespace Artifact

/-- **The generated files of a unit are at different places.** -/
theorem apart {s : Settings} {u : UiUnit} {paths : Paths} (h : pathsOf s u = .ok paths)
    {d : Disk} {l l' : Location} (hl : d.locate paths.interactor = .ok l)
    (hl' : d.locate paths.test = .ok l') : ¬ l.Same l' := by
  intro hs
  rw [pathsOf] at h
  split at h
  · obtain ⟨interactors, hinteractors, h⟩ := Except.bind_eq_ok.1 h
    obtain ⟨tests, htests, h⟩ := Except.bind_eq_ok.1 h
    obtain rfl := Except.ok.inj h
    -- the last parts share what stands behind the last slash of the common beginning
    obtain ⟨stem, ending, ending', hstem, hfirst, hlength, hslash, hslash'⟩ :=
      UnitName.exists_common_stem u.name
    have hi : UnitName.interactorStem u.name ++ ".ts" = stem ++ (ending ++ ".ts") := by
      rw [hstem, List.append_assoc]
    have ht : UnitName.lowerFirst u.name ++ ".spec.ts" = stem ++ (ending' ++ ".spec.ts") := by
      rw [hfirst, List.append_assoc]
    dsimp only at hl hl'
    rw [hi] at hl
    rw [ht] at hl'
    obtain ⟨last, hlast⟩ := Path.exists_last_child stem
    have hfile (p : Path) (e suffix : Text) (he : '/' ∉ e) (hsuffix : '/' ∉ suffix)
        (hne : suffix ≠ []) (hdot : suffix.getLast? ≠ some '.') :
        last ++ (e ++ suffix) ≠ ['.', '.'] ∧
          ∃ front, (p.child (stem ++ (e ++ suffix))).parts = front ++ [last ++ (e ++ suffix)] := by
      refine hlast p _ ?_ (List.append_ne_nil_of_right_ne_nil _ hne) ?_
      · rw [List.mem_append]
        exact not_or.2 ⟨he, hsuffix⟩
      · rw [List.getLast?_append, List.getLast?_eq_some_getLast hne, Option.some_or,
          ← List.getLast?_eq_some_getLast hne]
        exact hdot
    obtain ⟨hdots, front, hparts⟩ := hfile (interactors.child u.category) ending ".ts" hslash
      (by decide) (by decide) (by decide)
    obtain ⟨hdots', front', hparts'⟩ := hfile (tests.child u.category) ending' ".spec.ts"
      hslash' (by decide) (by decide) (by decide)
    have heq := last_eq_of_same (((Settings.clean_resolve hinteractors).child _).child _) hparts
      hdots (((Settings.clean_resolve htests).child _).child _) hparts' hdots' hl hl' hs
    have hlengths := congrArg List.length (List.append_cancel_left heq)
    rw [List.length_append, List.length_append] at hlengths
    have hts : (".ts" : Text).length = 3 := rfl
    have hspec : (".spec.ts" : Text).length = 8 := rfl
    omega
  · obtain ⟨interactors, hinteractors, h⟩ := Except.bind_eq_ok.1 h
    obtain ⟨tests, htests, h⟩ := Except.bind_eq_ok.1 h
    obtain rfl := Except.ok.inj h
    obtain ⟨last, hlast⟩ := Path.exists_last_child (UnitName.lowerFirst u.name)
    obtain ⟨last', hlast'⟩ := Path.exists_last_child (Text.lower u.name)
    obtain ⟨hdots, front, hparts⟩ := hlast (interactors.child u.name) "Section.ts" (by decide)
      (by decide) (by decide)
    obtain ⟨hdots', front', hparts'⟩ := hlast' (tests.child u.category) ".spec.ts" (by decide)
      (by decide) (by decide)
    have heq := last_eq_of_same (((Settings.clean_resolve hinteractors).child _).child _) hparts
      hdots (((Settings.clean_resolve htests).child _).child _) hparts' hdots' hl hl' hs
    have hback := congrArg (fun t : Text => t.reverse[3]?) heq
    simp only [List.reverse_append] at hback
    exact absurd (show some 'n' = some 'c' from hback) (by decide)

end Artifact

namespace Generation

/-- A file holds a text, as the bytes that it is written with. -/
def Holds (d : Disk) (p : Path) (t : Text) : Prop := d.readBytes p = .ok (Text.encode t)

/-- **The generated files of a unit** hold what was generated. -/
theorem holds_of_serve {s : Settings} {u : UiUnit} {session : Session} {served : Served}
    {w : Prepared} (hw : Wrote s u session served w) (hdry : s.isDryRun = false) :
    Holds ((serve s u).outcome session).2.disk served.paths.interactor w.interactor ∧
      Holds ((serve s u).outcome session).2.disk served.paths.test w.test := by
  have hwrote := serve_wrote s u session
  have hmade : madeBy s u session = Artifact.sourceWrites w.unit w.hooks.modified ++
      [(served.paths.interactor, w.interactor), (served.paths.test, w.test)] := by
    rw [hw.made, hdry, if_neg Bool.false_ne_true]
  obtain ⟨l, hl⟩ := hwrote.located (served.paths.interactor, w.interactor)
    (by rw [hmade]; simp)
  obtain ⟨l', hl'⟩ := hwrote.located (served.paths.test, w.test) (by rw [hmade]; simp)
  have hapart := Artifact.apart hw.paths hl hl'
  have hread {p : Path} {k : Location} {t : Text}
      (hk : ((serve s u).outcome session).2.disk.locate p = .ok k)
      (ht : ((serve s u).outcome session).2.disk.fileAt? k = some (Text.encode t)) :
      Holds ((serve s u).outcome session).2.disk p t := by
    rw [Holds, readBytes, find_eq_ok.2 ⟨k, hk, fileAt?_eq_some.1 ht⟩]
  refine ⟨hread hl ?_, hread hl' ?_⟩
  · have hother : ((serve s u).outcome session).2.disk.leadsTo served.paths.test l = false := by
      rw [← Bool.not_eq_true, leadsTo_iff]
      rintro ⟨k, hk, hsame⟩
      rw [hl'] at hk
      exact hapart (Except.ok.inj hk ▸ hsame).symm
    rw [fileAt?_of_serve hw hdry rfl, hother, leadsTo_iff.2 ⟨l, hl, .refl l⟩]
    rfl
  · rw [fileAt?_of_serve hw hdry rfl, leadsTo_iff.2 ⟨l', hl', .refl l'⟩]
    rfl

end Generation

end UiHarness
