import UiHarness.Proofs.Fence.Blocks
import UiHarness.Proofs.Generation.Isolation

/-!
# Marks at the beginning of generated code

Code is the body of a block, and a body ends in front of the next mark, so it has none.  But a reply
without a block is code as a whole, with whatever mark it begins with.  A reply that was cut off in
its block is such a reply, for no mark follows the opening one; so is one with carriage returns in
front of the ends of its lines, and one with anything else behind the tag, for then the opening mark
is none.  The files of a unit hold what comes of two replies, and nothing is looked at between.

* `Fence.Unclosed`: a reply that begins with a mark and has no block.
* `Fence.Marks`, `Fence.marks`: what is known of the marks in code.
* `Generation.CodeFiles`, `Generation.marks_of_files`: the files that begin with a mark.
-/

namespace UiHarness

namespace Fence

open Text

/-! ## 1.  Replies without a block -/

variable {language reply : Text} {IsTag : Text → Prop}

/-- A mark stands behind an opening of a block, so a text has none if no mark stands behind another
one. -/
theorem not_hasBlock_of_single (h : ∀ x y, reply = x ++ (mark ++ y) → ¬ mark <:+: y) :
    ¬ HasBlock IsTag reply := by
  rintro ⟨_, r, ⟨x, hx⟩, ⟨tag, blanks, -, -, rfl⟩, hmark⟩
  refine h x (tag ++ (blanks ++ '\n' :: r)) hx.symm (hmark.trans ?_)
  exact ((List.suffix_cons '\n' r).trans
    ((List.suffix_append blanks _).trans (List.suffix_append tag _))).isInfix

/-- The line of an opening does not end with a carriage return, so a text has no block if all of its
lines do. -/
theorem not_hasBlock_of_returns (htag : ∀ tag, IsTag tag → '\r' ∉ tag)
    (h : ∀ x y, reply = x ++ '\n' :: y → ∃ x', x = x' ++ ['\r']) : ¬ HasBlock IsTag reply := by
  rintro ⟨_, r, ⟨x, hx⟩, ⟨tag, blanks, hisTag, hblanks, rfl⟩, -⟩
  obtain ⟨x', hx'⟩ := h (x ++ (mark ++ (tag ++ blanks))) r (by
    rw [← hx]
    simp only [List.append_assoc])
  have hlast := congrArg List.getLast? hx'
  rw [List.getLast?_concat, List.getLast?_append,
    List.getLast?_eq_some_getLast (List.append_ne_nil_of_left_ne_nil mark_ne_nil (tag ++ blanks)),
    Option.some_or, Option.some.injEq] at hlast
  have hmem : '\r' ∈ mark ++ (tag ++ blanks) := hlast ▸ List.getLast_mem _
  rcases List.mem_append.1 hmem with hmark | hmem
  · exact absurd hmark (by decide)
  · rcases List.mem_append.1 hmem with hin | hin
    · exact htag tag hisTag hin
    · rcases hblanks _ hin with h | h
      · cases h
      · cases h

theorem return_not_mem_of_isPlainTag {tag : Text} (h : IsPlainTag tag) : '\r' ∉ tag := fun hr =>
  (h _ hr).elim (fun h => absurd h (by decide)) fun h => absurd h (by decide)

/-! ## 2.  Code -/

/-- A reply begins with a mark, but has no block of a language and none of a plain tag: its opening
is not one, or no mark follows it. -/
structure Unclosed (language reply : Text) : Prop where
  marked : mark <+: strip reply
  noBlock : ¬ HasBlock (· = language) reply
  noPlainBlock : ¬ HasBlock IsPlainTag reply

theorem first?_language_eq_none :
    first? (after? language) reply = none ↔ ¬ HasBlock (· = language) reply :=
  first?_eq_none_iff fun _ _ => opening?_language

theorem first?_anyTag_eq_none : first? anyTag? reply = none ↔ ¬ HasBlock IsPlainTag reply :=
  first?_eq_none_iff fun _ _ => opening?_anyTag

/-- Code has no mark, or the reply has no block and is code as a whole. -/
theorem code_cases (language reply : Text) : ¬ mark <:+: code language reply ∨
    ¬ HasBlock (· = language) reply ∧ ¬ HasBlock IsPlainTag reply ∧
      code language reply = strip reply := by
  unfold code
  split
  · rename_i hfirst
    exact .inl (not_infix_of_first? (fun _ _ => opening?_language) hfirst)
  · rename_i hnone
    split
    · rename_i hfirst
      exact .inl (not_infix_of_first? (fun _ _ => opening?_anyTag) hfirst)
    · rename_i hnone'
      exact .inr ⟨first?_language_eq_none.1 hnone, first?_anyTag_eq_none.1 hnone', rfl⟩

theorem code_of_not_hasBlock (h : ¬ HasBlock (· = language) reply)
    (h' : ¬ HasBlock IsPlainTag reply) : code language reply = strip reply := by
  rw [code, first?_language_eq_none.2 h]
  dsimp only
  rw [first?_anyTag_eq_none.2 h']

/-- **Code begins with a mark** exactly if the reply does and has no block. -/
theorem mark_prefix_code_iff : mark <+: code language reply ↔ Unclosed language reply := by
  constructor
  · intro h
    rcases code_cases language reply with hfree | ⟨hnone, hnone', hcode⟩
    · exact absurd h.isInfix hfree
    · exact ⟨hcode ▸ h, hnone, hnone'⟩
  · rintro ⟨hmarked, hnone, hnone'⟩
    rw [code_of_not_hasBlock hnone hnone']
    exact hmarked

/-- What is known of the marks in code of a language, for every reply. -/
structure Marks (language : Text) : Prop where
  /-- Code begins with a mark exactly if the reply does and has no block. -/
  begins_iff : ∀ reply, mark <+: code language reply ↔ Unclosed language reply
  /-- Then it is the whole reply. -/
  whole : ∀ reply, Unclosed language reply → code language reply = strip reply
  /-- A block leaves no mark anywhere in the code. -/
  free : ∀ reply, HasBlock (· = language) reply ∨ HasBlock IsPlainTag reply →
    ¬ mark <:+: code language reply
  /-- A reply with a mark at its beginning and none behind it has no block. -/
  cutOff : ∀ reply, mark <+: strip reply → (∀ x y, reply = x ++ (mark ++ y) → ¬ mark <:+: y) →
    Unclosed language reply
  /-- Neither has one with a carriage return in front of each line feed. -/
  returns : ∀ reply, '\r' ∉ language → mark <+: strip reply →
    (∀ x y, reply = x ++ '\n' :: y → ∃ x', x = x' ++ ['\r']) → Unclosed language reply

theorem marks (language : Text) : Marks language where
  begins_iff _ := mark_prefix_code_iff
  whole _ h := code_of_not_hasBlock h.noBlock h.noPlainBlock
  free reply h := by
    rcases code_cases language reply with hfree | ⟨hnone, hnone', -⟩
    · exact hfree
    · exact (h.elim hnone hnone').elim
  cutOff _ hmarked h := ⟨hmarked, not_hasBlock_of_single h, not_hasBlock_of_single h⟩
  returns _ hlanguage hmarked h :=
    ⟨hmarked, not_hasBlock_of_returns (fun _ htag => htag ▸ hlanguage) h,
      not_hasBlock_of_returns (fun _ => return_not_mem_of_isPlainTag) h⟩

end Fence

/-! ## 3.  Files -/

namespace Generation

/-- What the files of a unit hold, and where they have a mark at their beginning from. -/
structure CodeFiles (session session' : Session) (served : Served) (first second : Text) :
    Prop where
  /-- The code comes from the second and the third reply. -/
  replies : (session.reply 1).text = .ok first ∧ (session.reply 2).text = .ok second
  interactor : Holds session'.disk served.paths.interactor (Fence.code language first)
  test : Holds session'.disk served.paths.test (Fence.code language second)
  /-- In it, as in all code, a mark at the beginning is that of a reply without a block. -/
  marks : ∀ language, Fence.Marks language

/-- **The files that begin with a mark.**  The files of a unit hold the code of two replies, and
each of them begins with a mark exactly if its reply does and has no block. -/
theorem marks_of_files {s : Settings} {u : UiUnit} {session session' : Session} {g : Generation}
    {served : Served} (hdry : s.isDryRun = false)
    (hrun : (ofUnit s u).outcome session = (.ok g, session')) (hserved : g.outcome = .ok served) :
    ∃ first second, CodeFiles session session' served first second := by
  obtain ⟨calls, hcourse⟩ := course s u session
  obtain ⟨-, _, first, second, -, hfirst, hsecond, -, hfiles⟩ :=
    hcourse.served g served (congrArg Prod.fst hrun) hserved
  rw [hrun] at hfiles
  obtain ⟨hinteractor, htest⟩ := hfiles hdry
  exact ⟨first, second, ⟨hfirst, hsecond⟩, hinteractor, htest, Fence.marks⟩

/-- A reply whose lines end with carriage returns. -/
def returnsReply : Text := "```typescript\r\nexport class A \x7b\x7d\r\n```"

/-- A reply that was cut off. -/
def cutReply : Text := "```typescript\ntest("

/-- A session with these two replies. -/
def cutSession : Session :=
  { shortSession with replies := [.blocks [{ kind := none, text := some "a" }],
      .blocks [{ kind := none, text := some returnsReply }],
      .blocks [{ kind := none, text := some cutReply }]] }

/-- The case of this session: both files begin with a mark. -/
theorem marks_of_files_cut : ∃ g session' served,
    (ofUnit shortSettings (bareWidget "A")).outcome cutSession = (.ok g, session') ∧
    g.outcome = .ok served ∧ CodeFiles cutSession session' served returnsReply cutReply ∧
    Fence.mark <+: Fence.code language returnsReply ∧
    Fence.mark <+: Fence.code language cutReply := by
  have hserved : (((ofUnit shortSettings (bareWidget "A")).outcome cutSession).1.toOption.any
      fun g => g.outcome.toOption.isSome) = true := by
    decide +kernel
  cases hrun : (ofUnit shortSettings (bareWidget "A")).outcome cutSession with
  | mk result session' =>
    rw [hrun] at hserved
    obtain ⟨g, rfl, hsome⟩ := Except.exists_of_any hserved
    cases hg : g.outcome with
    | error f =>
      rw [hg] at hsome
      cases hsome
    | ok served =>
      obtain ⟨first, second, hfiles⟩ := marks_of_files rfl hrun hg
      obtain rfl : returnsReply = first := Except.ok.inj hfiles.replies.1
      obtain rfl : cutReply = second := Except.ok.inj hfiles.replies.2
      exact ⟨g, session', served, rfl, hg, hfiles, by decide +kernel, by decide +kernel⟩

end Generation

end UiHarness
