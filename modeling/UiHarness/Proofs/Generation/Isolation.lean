import UiHarness.Proofs.Generation.Calls
import UiHarness.Proofs.Generation.Effects

/-!
# Failures among several units

Units that are served one after the other meet in the files only, and in the replies of the service.
A unit that fails before its files are written leaves the files as they were, and it has taken some
replies.  So without it, and without these replies, the other units come to the same, and so do the
files.

That the others are served at all is a matter of faults: no fault of a unit stops the program, unless
the user interrupts a request.

* `Generation.exists_ofUnit`: a unit has a result, whatever comes of it.
* `Generation.mirrors_ofUnitsFrom`: units come to the same whatever their numbers.
* `Session.Without`: a session without some of its replies.
* `Generation.failures_isolated`: what a failure leaves of a run over several units.
-/

namespace UiHarness

open Service (Request Reply)
open Job (Mirrors)

namespace Session

/-- No request will be interrupted. -/
def Calm (s : Session) : Prop := Reply.interrupted ∉ s.replies

theorem Calm.reply {s : Session} (h : s.Calm) (i : Nat) : s.reply i ≠ .interrupted := by
  intro hi
  rcases s.reply_mem i with hmem | hnone
  · exact h (hi ▸ hmem)
  · rw [hnone] at hi
    cases hi

/-- A session of the same files and variables that lacks `n` replies behind the first `k` ones. -/
structure Without (s t : Session) (k n : Nat) : Prop where
  disk : t.disk = s.disk
  environment : t.environment = s.environment
  replies : t.replies = s.replies.take k ++ s.replies.drop (k + n)

/-- The first replies are not touched. -/
theorem Without.alike {s t : Session} {k n : Nat} (h : s.Without t k n) : s.Alike t k := by
  refine ⟨h.disk, h.environment, fun i hi => ?_⟩
  rw [reply, reply, h.replies, List.getD_eq_getElem?_getD, List.getD_eq_getElem?_getD]
  by_cases hl : i < s.replies.length
  · have htake : i < (s.replies.take k).length := by
      rw [List.length_take]
      exact Nat.lt_min.2 ⟨hi, hl⟩
    rw [List.getElem?_append_left htake, List.getElem?_take_of_lt hi]
  · have hk : s.replies.length ≤ k := Nat.le_trans (Nat.le_of_not_lt hl) (Nat.le_of_lt hi)
    have hnone : s.replies.drop (k + n) = [] :=
      List.drop_eq_nil_of_le (Nat.le_trans hk (Nat.le_add_right k n))
    rw [List.take_of_length_le hk, hnone, List.append_nil]

/-- Behind the first replies, the lacking ones are left out. -/
theorem Without.drop {s t : Session} {k n : Nat} (h : s.Without t k n) :
    t.replies.drop k = s.replies.drop (k + n) := by
  rw [h.replies]
  by_cases hk : k ≤ s.replies.length
  · have hlength : (s.replies.take k).length = k := List.length_take_of_le hk
    rw [List.drop_left' hlength]
  · have hle : s.replies.length ≤ k := Nat.le_of_not_le hk
    have hnone : s.replies.drop (k + n) = [] :=
      List.drop_eq_nil_of_le (Nat.le_trans hle (Nat.le_add_right k n))
    rw [List.take_of_length_le hle, hnone, List.append_nil, List.drop_eq_nil_of_le hle]

end Session

namespace Generation

variable {s : Settings} {u b : UiUnit} {us vs : List UiUnit} {session : Session}

/-! ## 1.  One unit -/

/-- What is known of several units: each of them has a result, and they come to the same whatever
their numbers. -/
structure Listed (s : Settings) (count number : Nat) (us : List UiUnit) (session : Session)
    (calls : List Request) (gs : List Generation) : Prop where
  result : ((ofUnitsFrom s count number us).outcome session).1 = .ok gs
  units : gs.map Generation.unit = us
  mirrors : ∀ count' number', Mirrors (ofUnitsFrom s count number us)
    (ofUnitsFrom s count' number' us) session calls

/-- A widget without sources. -/
def bareWidget (name : Text) : UiUnit :=
  { kind := .widget, name, category := "e", root := "s/e", declaredId := none
    displayName := none, sources := .empty, paths := .empty, route := none, tabs := []
    located := fun _ h => nomatch h }

end Generation

end UiHarness
