import UiHarness.Syntax.Layout
import UiHarness.Syntax.Symbol

/-!
# Characters that stand in no name

Names are the only tokens of which the library needs to know what they are made of.  A character
that the patterns of names do not accept is in no name that is read.

Several tokens are read at once, and blanks before them, so what is carried along is what each of
them may still become: put behind what has been read since the token began, any text that it may
go on with is free of the character.

* `Pattern.avoids`: whether no part of a pattern accepts a character.
* `Lexicon.Avoids`: a lexicon in whose names a character does not stand.
* `Lexicon.not_mem_text_of_scan`: a name that is read does not have the character in it.
-/

namespace UiHarness.Syntax

/-! ## 1.  Patterns -/

/-- Whether no part of a pattern accepts a character. -/
def Pattern.avoids (x : Char) : Pattern → Bool
  | text t => decide (x ∉ t)
  | oneOf accepts => !accepts x
  | both p q => p.avoids x && q.avoids x
  | either p q => p.avoids x && q.avoids x
  | many p => p.avoids x

/-- What no part of a pattern accepts is in no text of the pattern. -/
theorem Pattern.not_mem_of_matches {x : Char} {p : Pattern} {t : Text} (h : p.Matches t)
    (hp : p.avoids x = true) : x ∉ t := by
  induction h with
  | text t => exact of_decide_eq_true hp
  | @oneOf accepts c hc =>
    rw [avoids, Bool.not_eq_true'] at hp
    rw [List.mem_singleton]
    rintro rfl
    rw [hc] at hp
    cases hp
  | both _ _ ihs iht =>
    rw [avoids, Bool.and_eq_true] at hp
    rw [List.mem_append, not_or]
    exact ⟨ihs hp.1, iht hp.2⟩
  | left _ _ ih =>
    rw [avoids, Bool.and_eq_true] at hp
    exact ih hp.1
  | right _ _ ih =>
    rw [avoids, Bool.and_eq_true] at hp
    exact ih hp.2
  | none => exact List.not_mem_nil
  | more _ _ ihs iht =>
    rw [List.mem_append, not_or]
    exact ⟨ihs hp, iht hp⟩

/-! ## 2.  Reading a token -/

/-- Whether a symbol is a name as it stands in an opening tag, or a word, which is read as a name
where the word itself is not expected. -/
def Symbol.isNamed (s : Symbol) : Bool := tagNames.contains s || isWord s

/-- A token that, if it is a name, cannot go on so that there is a character in it, after what has
been read of it. -/
def Thread.Avoids (x : Char) (front : Text) (thread : Thread) : Prop :=
  Symbol.isNamed thread.symbol = true → ∀ t, thread.pattern.Matches t → x ∉ front ++ t

theorem Thread.avoids_of_mem_step {x c : Char} {front : Text} {threads : List Thread}
    (h : ∀ thread ∈ threads, thread.Avoids x front) :
    ∀ thread ∈ Thread.step c threads, thread.Avoids x (front ++ [c]) := by
  intro thread hthread hname t ht
  rw [step, List.mem_flatMap] at hthread
  obtain ⟨before, hbefore, hthread⟩ := hthread
  obtain ⟨p, hp, rfl⟩ := List.mem_map.1 hthread
  rw [List.append_assoc, List.singleton_append]
  exact h before hbefore hname (c :: t) (Pattern.matches_cons_iff.2 ⟨p, hp, ht⟩)

/-- Behind what is free of the character, too, a token may begin. -/
theorem Thread.Avoids.of_nil {x : Char} {front : Text} {thread : Thread} (h : thread.Avoids x [])
    (hfront : x ∉ front) : thread.Avoids x front := by
  intro hname t ht
  rw [List.mem_append, not_or]
  exact ⟨hfront, h hname t ht⟩

/-- What ends here is one of the tokens, and may end. -/
theorem Thread.of_ended? {threads : List Thread} {thread : Thread}
    (h : ended? threads = some thread) : thread ∈ threads ∧ thread.pattern.acceptsEmpty = true := by
  let Known (best : Option Thread) : Prop :=
    ∀ b ∈ best, b ∈ threads ∧ b.pattern.acceptsEmpty = true
  have hnone : Known none := fun b hb => by cases hb
  refine List.foldlRecOn threads _ (motive := Known) hnone (fun best hbest a ha b hb => ?_) thread h
  split at hb
  · rename_i hempty
    split at hb
    · obtain rfl := Option.some.inj hb
      exact ⟨ha, hempty⟩
    · split at hb
      · exact hbest b hb
      · obtain rfl := Option.some.inj hb
        exact ⟨ha, hempty⟩
  · exact hbest b hb

namespace Lexicon

/-- A lexicon in whose names a character does not stand. -/
def Avoids (x : Char) (l : Lexicon) : Prop :=
  (∀ thread ∈ l.entries, thread.Avoids x []) ∧ ∀ thread ∈ l.spaced, thread.Avoids x []

/-- What is known of a scan behind what has been read: if a name was found, its text is free of the
character. -/
structure Safe (x : Char) (front rest : Text) (s : Scan) : Prop where
  place : s.place = front.length
  start : s.start ≤ front.length
  found : ∀ symbol stop, s.found = some (symbol, stop) → Symbol.isNamed symbol = true →
    stop ≤ front.length ∧ x ∉ ((front ++ rest).drop s.start).take (stop - s.start)

/-- What ends here is found. -/
theorem Safe.ended {x : Char} {front rest : Text} {s : Scan} (h : Safe x front rest s)
    {threads : List Thread} (hthreads : ∀ thread ∈ threads, thread.Avoids x (front.drop s.start))
    {thread : Thread} (hended : Thread.ended? threads = some thread) :
    Safe x front rest { s with found := some (thread.symbol, s.place) } := by
  refine ⟨h.place, h.start, fun symbol stop hfound hname => ?_⟩
  obtain ⟨rfl, rfl⟩ := Prod.mk.inj (Option.some.inj hfound)
  obtain ⟨hmem, hempty⟩ := Thread.of_ended? hended
  have hfree := hthreads thread hmem hname [] (Pattern.matches_nil_iff.2 hempty)
  have hlength : s.place - s.start = (front.drop s.start).length := by
    rw [List.length_drop, h.place]
  refine ⟨Nat.le_of_eq h.place, ?_⟩
  rwa [List.drop_append_of_le_length h.start, hlength, List.take_left, ← List.append_nil (front.drop _)]

/-- The place behind one more character. -/
theorem Safe.length_concat {x : Char} {front rest : Text} {s : Scan} (h : Safe x front rest s)
    (c : Char) : (front ++ [c]).length = s.place + 1 := by
  rw [h.place, List.length_append, List.length_singleton]

/-- A character is read as part of a token. -/
theorem Safe.step {x c : Char} {front rest : Text} {s : Scan} (h : Safe x front (c :: rest) s) :
    Safe x (front ++ [c]) rest { s with place := s.place + 1 } := by
  refine ⟨(h.length_concat c).symm, ?_, fun symbol stop hfound hname => ?_⟩
  · rw [List.length_append]
    exact Nat.le_add_right_of_le h.start
  · obtain ⟨hstop, hfree⟩ := h.found symbol stop hfound hname
    rw [List.length_append, List.append_assoc, List.singleton_append]
    exact ⟨Nat.le_add_right_of_le hstop, hfree⟩

/-- A blank is passed before a token.  What was found before it counts as empty. -/
theorem Safe.skip {x c : Char} {front rest : Text} {s : Scan} (h : Safe x front (c :: rest) s) :
    Safe x (front ++ [c]) rest { s with start := s.place + 1, place := s.place + 1 } := by
  have hlength : (front ++ [c]).length = s.place + 1 := h.length_concat c
  refine ⟨hlength.symm, Nat.le_of_eq hlength.symm, fun symbol stop hfound hname => ?_⟩
  obtain ⟨hstop, -⟩ := h.found symbol stop hfound hname
  have hnone : stop - (s.place + 1) = 0 := by
    rw [h.place]
    omega
  refine ⟨hlength ▸ h.place ▸ Nat.le_succ_of_le hstop, ?_⟩
  dsimp only
  rw [hnone, List.take_zero]
  exact List.not_mem_nil

/-- What is known in the end: if a name was found, its text is free of the character. -/
def Clear (x : Char) (t : Text) (s : Scan) : Prop :=
  ∀ symbol stop, s.found = some (symbol, stop) → Symbol.isNamed symbol = true →
    x ∉ (t.drop s.start).take (stop - s.start)

theorem Safe.clear {x : Char} {front rest : Text} {s : Scan} (h : Safe x front rest s) :
    Clear x (front ++ rest) s := fun symbol stop hfound hname => (h.found symbol stop hfound hname).2

theorem Clear.ite {x : Char} {t : Text} {s s' : Scan} {p : Prop} [Decidable p] (h : Clear x t s)
    (h' : Clear x t s') : Clear x t (if p then s else s') := by
  split
  · exact h
  · exact h'

/-- What may be read next is free of the character again, if a character was read or a blank
passed. -/
theorem avoids_of_mem_next {x c : Char} (hspace : isSpace x = false) {l : Lexicon}
    (hl : l.Avoids x) {front : Text} {start : Nat} {between : Bool} {next : List Thread}
    (hstart : start ≤ front.length) (hblank : between = true → x ∉ front.drop start)
    (hnext : ∀ thread ∈ next, thread.Avoids x ((front ++ [c]).drop start)) :
    ((between && isSpace c) = true → x ∉ (front ++ [c]).drop start) ∧
      ∀ thread ∈ (if (between && isSpace c) = true then next ++ l.spaced else next),
        thread.Avoids x ((front ++ [c]).drop start) := by
  have hfree : (between && isSpace c) = true → x ∉ (front ++ [c]).drop start := by
    intro h
    obtain ⟨hbetween, hc⟩ := Bool.and_eq_true_iff.1 h
    rw [List.drop_append_of_le_length hstart, List.mem_append, not_or, List.mem_singleton]
    refine ⟨hblank hbetween, ?_⟩
    rintro rfl
    rw [hspace] at hc
    cases hc
  refine ⟨hfree, fun thread hthread => ?_⟩
  split at hthread
  · rename_i h
    rcases List.mem_append.1 hthread with hthread | hthread
    · exact hnext thread hthread
    · exact (hl.2 thread hthread).of_nil (hfree h)
  · exact hnext thread hthread

/-- **A name that is found is free of the character.**  As long as only blanks have been read, what
has been read is free of it, and so is what has been read of each token that is a name. -/
theorem clear_go {x : Char} (hspace : isSpace x = false) {l : Lexicon} (hl : l.Avoids x)
    {front rest : Text} {between mayEnd : Bool} {threads : List Thread} {s : Scan}
    (hs : Safe x front rest s) (hblank : between = true → x ∉ front.drop s.start)
    (hthreads : ∀ thread ∈ threads, thread.Avoids x (front.drop s.start)) :
    Clear x (front ++ rest) (l.go between mayEnd threads s rest) := by
  induction rest generalizing front between mayEnd threads s with
  | nil =>
    unfold go
    split
    · intro symbol stop hfound hname
      obtain ⟨rfl, -⟩ := Prod.mk.inj (Option.some.inj hfound)
      exact absurd hname (by decide)
    · rename_i hended
      exact (hs.ended hthreads hended).clear
    · exact hs.clear
  | cons c rest ih =>
    have hnext : ∀ thread ∈ (if c = '\x00' then [] else Thread.step c threads),
        thread.Avoids x ((front ++ [c]).drop s.start) := by
      rw [List.drop_append_of_le_length hs.start]
      split
      · exact fun _ h => absurd h List.not_mem_nil
      · exact Thread.avoids_of_mem_step hthreads
    unfold go
    dsimp only
    generalize (if c = '\x00' then [] else Thread.step c threads) = next at hnext
    -- going on behind the character, whether a token ended before it or not
    have hgo : ∀ {s₁ : Scan}, Safe x front (c :: rest) s₁ → s₁.start = s.start → ∀ mayEnd',
        Clear x (front ++ c :: rest) (l.go (between && isSpace c) mayEnd'
          (if (between && isSpace c) = true then next ++ l.spaced else next)
          { s₁ with
            start := if next.isEmpty = true then s₁.place + 1 else s₁.start
            place := s₁.place + 1 } rest) := by
      intro s₁ hs₁ hstart mayEnd'
      rw [← List.singleton_append, ← List.append_assoc]
      by_cases hempty : next.isEmpty = true
      · rw [if_pos hempty]
        obtain rfl := List.isEmpty_iff.1 hempty
        have hnone : (front ++ [c]).drop (s₁.place + 1) = [] :=
          List.drop_of_length_le (Nat.le_of_eq (hs₁.length_concat c))
        refine ih hs₁.skip (fun _ => ?_) fun thread hthread => ?_
        · rw [hnone]
          exact List.not_mem_nil
        · rw [hnone]
          split at hthread
          · exact hl.2 thread hthread
          · cases hthread
      · rw [if_neg hempty]
        obtain ⟨hfree, hall⟩ := avoids_of_mem_next hspace hl hs.start hblank hnext
        exact ih hs₁.step (hstart ▸ hfree) (hstart ▸ hall)
    cases hended : Thread.ended? threads with
    | none => exact hs.clear.ite (hgo hs rfl _)
    | some ended =>
      have hs₁ := hs.ended hthreads hended
      exact hs₁.clear.ite ((hgo hs₁ rfl _).ite hs₁.clear)

/-- **A name that is read is free of a character** that stands in none of the names of the
lexicon. -/
theorem not_mem_text_of_scan {x : Char} (hspace : isSpace x = false) {l : Lexicon}
    (hl : l.Avoids x) {t : Text} {r : Lexed} (h : l.scan t = .ok r)
    (hname : Symbol.isNamed r.symbol = true) : x ∉ r.text := by
  have hsafe : Safe x [] t ⟨none, 0, 0⟩ := ⟨rfl, Nat.le_refl 0, fun _ _ h => by cases h⟩
  have hclear : Clear x ([] ++ t) (l.go (!l.spaced.isEmpty) l.mayEnd l.entries ⟨none, 0, 0⟩ t) :=
    clear_go hspace hl hsafe (fun _ => List.not_mem_nil) hl.1
  unfold scan at h
  dsimp only at h
  split at h
  · rename_i symbol stop hfound
    obtain rfl := Except.ok.inj h
    exact hclear symbol stop hfound hname
  · cases h

/-- There are two patterns for names, and none for words. -/
theorem pattern_of_isNamed {n : Nat} {token : Token} {p : Pattern}
    (hname : Symbol.isNamed n = true) (htoken : tokens[n]? = some token)
    (hp : token.pattern? = some p) : p = .name ∨ p = .hyphenated := by
  rw [Symbol.isNamed, Bool.or_eq_true] at hname
  rcases hname with hname | hword
  · have hcases : n = Symbol.name ∨ n = Symbol.hyphenatedName ∨ n = Symbol.memberName ∨
        n = Symbol.namespaceName := by
      simpa [Symbol.tagNames] using hname
    rcases hcases with rfl | rfl | rfl | rfl
    · obtain rfl := Option.some.inj htoken
      exact .inl (Option.some.inj hp).symm
    · obtain rfl := Option.some.inj htoken
      exact .inr (Option.some.inj hp).symm
    · cases htoken
    · cases htoken
  · rw [Symbol.isWord, htoken] at hword
    cases token with
    | keyword _ => cases hp
    | _ => cases hword

/-- In the names among given tokens no character stands that neither pattern accepts. -/
theorem avoids_ofSymbols {x : Char} (hx : Pattern.name.avoids x = true)
    (hx' : Pattern.hyphenated.avoids x = true) (symbols : List Nat) :
    (ofSymbols symbols).Avoids x := by
  have hentry : ∀ entry ∈ symbols.filterMap (fun n => do
      let token ← tokens[n]?
      let pattern ← token.pattern?
      return ((⟨n, token.precedence, token.rank, pattern⟩ : Thread), token.mayFollowBlanks)),
      entry.1.Avoids x [] := by
    intro entry hentry hname t ht
    obtain ⟨n, -, hn⟩ := List.mem_filterMap.1 hentry
    rw [Option.bind_eq_bind, Option.bind_eq_some_iff] at hn
    obtain ⟨token, htoken, hn⟩ := hn
    rw [Option.bind_eq_bind, Option.bind_eq_some_iff] at hn
    obtain ⟨pattern, hpattern, hn⟩ := hn
    obtain rfl := Option.some.inj hn
    rw [List.nil_append]
    rcases pattern_of_isNamed hname htoken hpattern with rfl | rfl
    · exact Pattern.not_mem_of_matches ht hx
    · exact Pattern.not_mem_of_matches ht hx'
  refine ⟨fun thread hthread => ?_, fun thread hthread => ?_⟩
  · obtain ⟨entry, hmem, rfl⟩ := List.mem_map.1 hthread
    exact hentry entry hmem
  · obtain ⟨entry, hmem, rfl⟩ := List.mem_map.1 hthread
    exact hentry entry (List.mem_filter.1 hmem |>.1)

end Lexicon

/-! ## 3.  Other tokens -/

/-- The tokens that depend on what stands around them. -/
def layoutTokens : List Nat :=
  [Layout.lineEndNumber, Layout.templateNumber, Layout.questionNumber, Layout.commentNumber,
    Layout.markupTextNumber]

/-- What is found by what stands around it is one of these tokens. -/
theorem Layout.symbol_of_scan? {e : Expected} {t : Text} {r : Lexed} (h : scan? e t = some r) :
    r.symbol ∈ layoutTokens := by
  let Known (found : Option Lexed) : Prop := ∀ r ∈ found, r.symbol ∈ layoutTokens
  have hnone : Known none := fun _ h => by cases h
  have hsome : ∀ {r : Lexed}, r.symbol ∈ layoutTokens → Known (some r) :=
    fun hr _ h => Option.some.inj h ▸ hr
  have hite : ∀ {p : Prop} [Decidable p] {a b : Option Lexed}, Known a → Known b →
      Known (if p then a else b) := by
    intro p _ a b ha hb
    split
    · exact ha
    · exact hb
  have hquestion : ∀ from_, Known (scanQuestion? t from_) := by
    intro from_ r hr
    obtain ⟨rest, -, hrest⟩ := Option.bind_eq_some_iff.1 hr
    obtain rfl := Option.some.inj hrest
    exact (by decide : questionNumber ∈ layoutTokens)
  have hcomment : ∀ start k, Known ((comment? start).map (token commentNumber t k)) := by
    intro start k r hr
    obtain ⟨rest, -, rfl⟩ := Option.map_eq_some_iff.1 hr
    exact (by decide : commentNumber ∈ layoutTokens)
  have hend : ∀ rest, Known (some ⟨lineEndNumber, [], [], rest⟩) :=
    fun rest => hsome (by decide : lineEndNumber ∈ layoutTokens)
  have htext : ∀ content rest, Known (some ⟨markupTextNumber, [], content, rest⟩) :=
    fun content rest => hsome (by decide : markupTextNumber ∈ layoutTokens)
  have hall : Known (scan? e t) := by
    unfold scan?
    refine hite (hite hnone ?_) (hite (htext _ _)
      (hite (hite (hend _) (hite (hquestion _) hnone))
        (hite (hquestion _) (hite (hcomment _ _) hnone))))
    split
    · exact hite hnone (hsome (by decide : templateNumber ∈ layoutTokens))
    · exact hnone
  exact hall r h

end UiHarness.Syntax
