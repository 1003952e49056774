import UiHarness.Text.Lowercase

/-!
# What lower case brings in

All partners of capitals are letters, and these stand behind the signs of ASCII, such as the slash
or the quotes.  So lower case brings no such sign into a text (`Text.not_mem_lower`).
-/

namespace UiHarness.Text

/-- A code point that is far from a number stays so, if all runs lead far from it. -/
theorem lowerIn_ne {n m : Nat} {runs : List (Nat × Nat × Nat × Int)} (hn : n ≠ m)
    (hruns : ∀ run ∈ runs, (m : Int) < run.1 + run.2.2.2) : lowerIn n runs ≠ m := by
  induction runs with
  | nil => exact hn
  | cons run runs ih =>
    obtain ⟨lo, hi, step, distance⟩ := run
    have hrun := hruns _ (List.mem_cons_self ..)
    rw [lowerIn]
    split
    · exact hn
    · split
      · dsimp only at hrun
        omega
      · exact ih fun run hm => hruns run (List.mem_cons_of_mem _ hm)

/-- No run leads in front of the letters. -/
theorem lt_of_mem_lowerRuns : ∀ run ∈ lowerRuns, (64 : Int) < run.1 + run.2.2.2 := by
  decide +kernel

/-- Lower case does not lead to a sign in front of the letters. -/
theorem toLower_ne {c x : Char} (hx : x.toNat < 65) (h : c ≠ x) : c.toLower ≠ x := by
  delta Char.toLower
  by_cases hc : c.val ≥ 'A'.val ∧ c.val ≤ 'Z'.val
  · rw [dif_pos hc]
    intro heq
    have hlow : 65 ≤ c.val.toNat := UInt32.le_iff_toNat_le.1 hc.1
    have hhigh : c.val.toNat ≤ 90 := UInt32.le_iff_toNat_le.1 hc.2
    have hval : (c.val + 32).toNat = x.toNat := congrArg (fun c => c.val.toNat) heq
    rw [UInt32.toNat_add] at hval
    change (c.val.toNat + 32) % 4294967296 = x.toNat at hval
    omega
  · rwa [dif_neg hc]

/-- The character of a code point that is not that of another one. -/
theorem ofNat_ne {n : Nat} {x : Char} (hx : x.toNat ≠ 0) (h : n ≠ x.toNat) : Char.ofNat n ≠ x := by
  delta Char.ofNat
  by_cases hv : n.isValidChar
  · rw [dif_pos hv]
    exact fun heq => h (congrArg (fun c => c.val.toNat) heq)
  · rw [dif_neg hv]
    exact fun heq => hx (congrArg (fun c => c.val.toNat) heq.symm)

theorem not_mem_lowerChar {c x : Char} (hpos : x.toNat ≠ 0) (hx : x.toNat < 65) (h : c ≠ x)
    (before behind : Text) : x ∉ lowerChar before c behind := by
  -- the characters that stand in the rules of their own are no signs of ASCII
  have hne : ∀ y : Char, 65 ≤ y.toNat → x ≠ y := by
    rintro y hy rfl
    omega
  rw [lowerChar]
  split
  · rw [List.mem_cons, List.mem_singleton, not_or]
    exact ⟨hne _ (by decide), hne _ (by decide)⟩
  · split
    · split
      · rw [List.mem_singleton]
        exact hne _ (by decide)
      · rw [List.mem_singleton]
        exact hne _ (by decide)
    · split
      · rw [List.mem_singleton]
        exact fun heq => toLower_ne hx h heq.symm
      · rename_i hc
        have hfar : lowerIn c.toNat lowerRuns ≠ x.toNat :=
          lowerIn_ne (by omega) fun run hm => by
            have := lt_of_mem_lowerRuns run hm
            omega
        rw [List.mem_singleton]
        exact fun heq => ofNat_ne hpos hfar heq.symm

theorem not_mem_lowerFrom {x : Char} (hpos : x.toNat ≠ 0) (hx : x.toNat < 65) {before t : Text}
    (h : x ∉ t) : x ∉ lowerFrom before t := by
  induction t generalizing before with
  | nil => exact List.not_mem_nil
  | cons c t ih =>
    rw [List.mem_cons, not_or] at h
    rw [lowerFrom, List.mem_append, not_or]
    exact ⟨not_mem_lowerChar hpos hx (fun hc => h.1 hc.symm) _ _, ih h.2⟩

/-- **Lower case brings in no sign** in front of the letters. -/
theorem not_mem_lower {x : Char} (hpos : x.toNat ≠ 0) (hx : x.toNat < 65) {t : Text}
    (h : x ∉ t) : x ∉ lower t :=
  not_mem_lowerFrom hpos hx h

end UiHarness.Text
