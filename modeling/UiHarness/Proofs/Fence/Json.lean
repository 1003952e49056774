import UiHarness.Proofs.Fence.Blocks
import UiHarness.Proofs.Json.Backticks
import UiHarness.Proofs.Json.Cut

/-!
# Fenced JSON

The block of a reply ends with the next mark, wherever it stands, and JSON does not keep backticks
out of its strings.  So JSON in a block is read back if no text in it has a mark.  If one has, the
block ends inside of a string, what is taken out is cut off, and JSON that is cut off is refused for
a defect: the reply holds no value at all.

* `Fence.withJson`: a reply with JSON in a block.
* `Fence.json_of_not_shows`, `Fence.json_of_shows`: the value that it holds.
-/

namespace UiHarness

namespace Text

variable {p t w : Text} {c : Char}

/-- A text that does not begin with a blank loses blanks at its end only. -/
theorem strip_isPrefix (hc : isBlank c = false) (h : p <+: c :: w) : strip p <+: p := by
  have hstart : p.dropWhile isBlank = p := by
    rcases List.prefix_cons_iff.1 h with rfl | ⟨q, rfl, -⟩
    · rfl
    · exact List.dropWhile_cons_of_neg (by rw [hc]; exact Bool.false_ne_true)
  rw [strip, trimWhile, hstart, dropEndWhile, ← List.reverse_suffix, List.reverse_reverse]
  exact List.dropWhile_suffix _

/-- A text that neither begins nor ends with a blank has none to lose. -/
theorem strip_eq_self {d : Char} (hc : isBlank c = false) (hd : isBlank d = false)
    (h : t = c :: w) (h' : t = p ++ [d]) : strip t = t := by
  have hstart : t.dropWhile isBlank = t := by
    rw [h]
    exact List.dropWhile_cons_of_neg (by rw [hc]; exact Bool.false_ne_true)
  have hend : t.reverse.dropWhile isBlank = t.reverse := by
    rw [h', List.reverse_append, List.reverse_singleton, List.singleton_append]
    exact List.dropWhile_cons_of_neg (by rw [hd]; exact Bool.false_ne_true)
  rw [strip, trimWhile, hstart, dropEndWhile, hend, List.reverse_reverse]

end Text

namespace Json

open Text

variable {depth : Nat} {v : Value}

/-- What a value ends with. -/
theorem exists_indented_eq_concat (h : Plain depth v) (level : Nat) :
    ∃ t c, indented level v = t ++ [c] ∧ c ∈ ['l', 'e', '"', ']', '\x7d'] := by
  cases h with
  | null => exact ⟨['n', 'u', 'l'], 'l', rfl, by decide⟩
  | bool b =>
    cases b with
    | true => exact ⟨['t', 'r', 'u'], 'e', rfl, by decide⟩
    | false => exact ⟨['f', 'a', 'l', 's'], 'e', rfl, by decide⟩
  | text t => exact ⟨'"' :: t.flatMap escaped, '"', rfl, by decide⟩
  | @list _ vs _ =>
    cases vs with
    | nil => exact ⟨['['], ']', rfl, by decide⟩
    | cons v vs => exact ⟨_, ']', rfl, by decide⟩
  | @table _ es _ _ =>
    cases es with
    | nil => exact ⟨['\x7b'], '\x7d', rfl, by decide⟩
    | cons e es => exact ⟨_, '\x7d', rfl, by decide⟩

theorem exists_pretty_eq_cons (h : Plain depth v) :
    ∃ c t, pretty v = c :: t ∧ Text.isBlank c = false := by
  obtain ⟨c, t, ht, hc⟩ := exists_head_of_all h 0 (p := fun c => !Text.isBlank c) (by decide)
  exact ⟨c, t, ht, Bool.not_eq_true' _ ▸ hc⟩

/-- The text of a value has no blanks at its ends. -/
theorem strip_pretty (h : Plain depth v) : strip (pretty v) = pretty v := by
  obtain ⟨c, t, ht, hc⟩ := exists_pretty_eq_cons h
  obtain ⟨u, d, hu, hd⟩ := exists_indented_eq_concat h 0
  have hsigns : (['l', 'e', '"', ']', '\x7d'].all fun c => !Text.isBlank c) = true := by decide
  exact strip_eq_self hc (Bool.not_eq_true' _ ▸ List.all_eq_true.1 hsigns d hd) ht hu

/-- What stands in front of a mark that is part of the text of a value is a part of that text. -/
theorem isCut_of_cut? {m r body after : Text} (h : Plain depth v) (hm : m ≠ [])
    (hmark : m <:+: pretty v) (hcut : cut? m (pretty v ++ r) = some (body, after)) :
    IsCut (strip body) (pretty v) := by
  obtain ⟨x, y, hxy⟩ := hmark
  have hlength : body.length ≤ x.length :=
    cut?_first hcut (x := x) (y := y ++ r) (by rw [← hxy]; simp only [List.append_assoc])
  have hlt : x.length < (pretty v).length := by
    rw [← hxy, List.length_append, List.length_append]
    have hpos := List.length_pos_iff.2 hm
    omega
  have hbody : body <+: pretty v :=
    List.prefix_of_prefix_length_le ⟨m ++ after, append_of_cut? hcut⟩
      (List.prefix_append (pretty v) r) (by omega)
  obtain ⟨c, t, ht, hc⟩ := exists_pretty_eq_cons h
  have hstrip : strip body <+: body := strip_isPrefix hc (ht ▸ hbody)
  refine ⟨hstrip.trans hbody, fun heq => ?_⟩
  have hle := hstrip.length_le
  rw [heq] at hle
  omega

end Json

namespace Fence

open Text

/-- A reply with JSON in a block: what stands before it, its value, and what stands behind it. -/
def withJson (before : Text) (v : Value) (after : Text) : Text :=
  withBlock before "json" (Json.pretty v) after

/-- A mark that begins in front of an opening has no room for the tag. -/
theorem not_opens_of_not_infix {before x : Text} (h : ¬ mark <:+: before) (hne : x ≠ [])
    (hx : x <:+ before) (rest r : Text) : ¬ Opens (· = "json") (opened x "json" rest) r := by
  rintro ⟨_, blanks, rfl, -, heq⟩
  match x, hne, hx, heq with
  | [c], _, _, heq => 
    have hfourth : some '`' = some 'j' := congrArg (fun t : Text => (t.drop 3).head?) heq
    cases hfourth
  | [c, d], _, _, heq =>
    have hfourth : some '`' = some 'j' := congrArg (fun t : Text => (t.drop 3).head?) heq
    cases hfourth
  | c :: d :: e :: x, _, hx, heq =>
    have hmark : mark <+: c :: d :: e :: x :=
      List.prefix_of_prefix_length_le ⟨_, heq.symm⟩ (List.prefix_append _ _)
        (Nat.le_add_left 3 x.length)
    exact h (hmark.isInfix.trans hx.isInfix)

variable {before after : Text} {v : Value}

theorem jsonText?_of_first? {reply t : Text} (h : first? (after? "json") reply = some t) :
    jsonText? reply = some t := by
  rw [jsonText?, h]

theorem isTicks_mark : Json.IsTicks mark where
  ne_nil := mark_ne_nil
  eq_tick c hc := by
    have hticks : mark.all (· == '`') = true := by decide
    exact eq_of_beq (List.all_eq_true.1 hticks c hc)

/-- **JSON in a block is read back** if no text in it has a mark. -/
theorem json_of_not_shows (hbefore : ¬ mark <:+: before) (h : Json.Plain Json.depthLimit v)
    (hv : ¬ v.Shows mark) (after : Text) : json (withJson before v after) = .ok (some v) := by
  have hbody : ¬ mark <:+: Json.pretty v := fun h' =>
    hv ((Json.infix_pretty_iff isTicks_mark h).1 h')
  have hfirst : first? (after? "json") (withJson before v after) = some (strip (Json.pretty v)) :=
    first?_withBlock (fun _ _ => opening?_language) rfl hbody
      fun x r hne hx => not_opens_of_not_infix hbefore hne hx _ r
  rw [Json.strip_pretty h] at hfirst
  rw [json, jsonText?_of_first? hfirst]
  dsimp only
  rw [Json.parse_pretty h]

/-- **JSON in a block is lost** if a text in it has a mark. -/
theorem json_of_shows (hbefore : ¬ mark <:+: before) (h : Json.Plain Json.depthLimit v)
    (hv : v.Shows mark) (after : Text) : json (withJson before v after) = .ok none := by
  have hmark : mark <:+: Json.pretty v := (Json.infix_pretty_iff isTicks_mark h).2 hv
  obtain ⟨⟨body, rest⟩, hcut⟩ : ∃ found,
      cut? mark (Json.pretty v ++ '\n' :: (mark ++ after)) = some found :=
    Option.ne_none_iff_exists'.1 fun hnone =>
      (cut?_eq_none_iff mark_ne_nil).1 hnone (hmark.trans (List.prefix_append _ _).isInfix)
  have hfirst : first? (after? "json") (withJson before v after) = some (strip body) :=
    first?_opened (fun _ _ => opening?_language) rfl hcut
      fun x r hne hx => not_opens_of_not_infix hbefore hne hx _ r
  obtain ⟨d, left, hrefused⟩ :=
    Json.refused_parse h (Json.isCut_of_cut? h mark_ne_nil hmark hcut)
  rw [json, jsonText?_of_first? hfirst]
  dsimp only
  rw [hrefused]

end Fence

end UiHarness
