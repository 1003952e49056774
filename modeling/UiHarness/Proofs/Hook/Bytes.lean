import UiHarness.Hook.Transform
import UiHarness.Proofs.Text.LineEnds

/-!
# Hooks in the bytes of a file

What the bytes of a file tell of the hooks that its text was given.

* `Hook.Preserved`: bytes that are kept, but for hooks that are put in.
* `Hook.preserved_hooks_iff`: a text with hooks preserves exactly the files without carriage
  returns.
* `Hook.Present`: bytes in which hooks stand.
* `Hook.present_iff`: a file has the hooks that it was given last, and no others.
-/

namespace UiHarness.Hook

/-! ## 1.  Preservation -/

/-- Bytes that are kept, but for hooks of some identifiers that are put in. -/
def Preserved (ids : List Text) (before after : ByteArray) : Prop :=
  Scattered (ids.map fun id => Text.bytes (attributeText id)) before.data.toList after.data.toList

/-- The identifiers that were given to the elements of a file. -/
def Transform.ids (t : Transform) : List Text := t.suggestions.map Suggestion.id

/-- A text that hooks were put into is preserved in bytes. -/
theorem preserved_of_scattered {ids : List Text} {before after : Text}
    (h : Scattered (ids.map attributeText) before after) :
    Preserved ids (Text.encode before) (Text.encode after) := by
  have hbytes := h.flatMap String.utf8EncodeChar
  rw [← Text.bytes_eq_flatMap, ← Text.bytes_eq_flatMap, List.map_map] at hbytes
  have hmap : (ids.map (List.flatMap String.utf8EncodeChar ∘ attributeText)) =
      ids.map fun id => Text.bytes (attributeText id) :=
    List.map_congr_left fun id _ => (Text.bytes_eq_flatMap _).symm
  rw [hmap] at hbytes
  exact hbytes

/-- Hooks bring as many carriage returns into a file as into its text. -/
theorem not_mem_of_preserved {ids : List Text} {raw : Text} {after : ByteArray}
    (h : Preserved ids (Text.encode raw) after)
    (hcount : after.data.toList.count 13 ≤
      (ids.map fun id => Text.bytes (attributeText id)).flatten.count 13) :
    '\r' ∉ raw := by
  rw [← Text.count_bytes_eq_zero_iff, Text.bytes]
  have hall := h.count_eq (13 : UInt8)
  omega

/-- **A file is preserved by its text with hooks** exactly if it has no carriage return. -/
theorem preserved_hooks_iff {ids : List Text} {raw code : Text}
    (h : Scattered (ids.map attributeText) (Text.unifyLineEnds raw) code) :
    Preserved ids (Text.encode raw) (Text.encode code) ↔ '\r' ∉ raw := by
  have hkept := preserved_of_scattered h
  refine ⟨fun hp => not_mem_of_preserved hp ?_, fun hr => ?_⟩
  · have hnone := Text.count_bytes_eq_zero_iff.2 (Text.not_mem_unifyLineEnds raw)
    rw [Text.bytes] at hnone
    exact Nat.le_of_eq (by rw [hkept.count_eq (13 : UInt8), hnone, Nat.zero_add])
  · rwa [Text.unifyLineEnds_eq_self.2 hr] at hkept

/-- A file is not preserved by its text without hooks, if it was to get any. -/
theorem not_preserved_unhooked {ids : List Text} {raw : Text} (hids : ids ≠ []) :
    ¬ Preserved ids (Text.encode raw) (Text.encode (Text.unifyLineEnds raw)) := by
  intro hp
  have hnone := Text.count_bytes_eq_zero_iff.2 (Text.not_mem_unifyLineEnds raw)
  rw [Text.bytes] at hnone
  have hr : '\r' ∉ raw := not_mem_of_preserved hp (by rw [hnone]; exact Nat.zero_le _)
  have hlength := hp.length_eq
  rw [Text.unifyLineEnds_eq_self.2 hr] at hlength
  cases ids with
  | nil => exact hids rfl
  | cons id ids =>
    have hpos : 0 < (Text.bytes (attributeText id)).length := by
      rw [Text.length_bytes]
      exact Text.byteSize_pos (List.cons_ne_nil _ _)
    rw [List.map_cons, List.flatten_cons, List.length_append] at hlength
    omega

/-! ## 2.  Presence -/

/-- Bytes in which there are hooks of some identifiers. -/
def Present (ids : List Text) (file : ByteArray) : Prop :=
  ∀ id ∈ ids, Text.bytes (attributeText id) <:+: file.data.toList

/-- An identifier that cannot be taken for parts of a hook. -/
def IsPlain (id : Text) : Prop := ' ' ∉ id ∧ '"' ∉ id

/-- What stands in a hook in front of the identifier, behind the space. -/
def opening : Text := attributeName ++ "=\""

/-- The bytes of a hook: the space, and those of the other parts. -/
theorem bytes_attributeText (id : Text) : Text.bytes (attributeText id) =
    32 :: (Text.bytes opening ++ (Text.bytes id ++ [34])) := by
  have hparts : attributeText id = [' '] ++ (opening ++ (id ++ ['"'])) := by
    rw [attributeText, opening, List.append_assoc, List.append_assoc, List.append_assoc]
    rfl
  rw [hparts, Text.bytes_append, Text.bytes_append, Text.bytes_append]
  rfl

/-- The space of a hook does not stand in it again. -/
theorem not_mem_of_isPlain {id : Text} (h : IsPlain id) :
    (32 : UInt8) ∉ Text.bytes opening ++ (Text.bytes id ++ [34]) := by
  have hid : (32 : UInt8) ∉ Text.bytes id :=
    fun hm => h.1 ((Text.mem_bytes_iff (a := ' ') (by decide)).1 hm)
  rw [List.mem_append, List.mem_append, not_or, not_or]
  exact ⟨fun hm => absurd ((Text.mem_bytes_iff (a := ' ') (by decide)).1 hm) (by decide), hid,
    by decide⟩

/-- Lists with one end mark, one of which begins as the other does, are equal. -/
theorem eq_of_end_mark {α : Type} {m : α} {a b l : List α} (ha : m ∉ a) (hb : m ∉ b)
    (h : a ++ [m] <+: b ++ m :: l) : a = b := by
  obtain ⟨rest, h⟩ := h
  rw [List.append_assoc] at h
  rcases List.append_eq_append_iff.1 h with ⟨c, rfl, hc⟩ | ⟨c, rfl, hc⟩
  · cases c with
    | nil => exact (List.append_nil _).symm
    | cons x c =>
      obtain rfl := (List.cons.inj hc).1
      exact absurd (List.mem_append_right _ (List.mem_cons_self ..)) hb
  · cases c with
    | nil => exact List.append_nil _
    | cons x c =>
      obtain rfl := (List.cons.inj hc).1
      exact absurd (List.mem_append_right _ (List.mem_cons_self ..)) ha

/-- A hook is known by its beginning. -/
theorem eq_of_beginning {id id' : Text} (h : IsPlain id) (h' : IsPlain id') {more : List UInt8}
    (hpre : Text.bytes (attributeText id) <+: Text.bytes (attributeText id') ++ more) :
    id = id' := by
  rw [bytes_attributeText, bytes_attributeText, List.cons_append, List.cons_prefix_cons,
    List.append_assoc, List.prefix_append_right_inj, List.append_assoc] at hpre
  have hid : (34 : UInt8) ∉ Text.bytes id :=
    fun hm => h.2 ((Text.mem_bytes_iff (a := '"') (by decide)).1 hm)
  have hid' : (34 : UInt8) ∉ Text.bytes id' :=
    fun hm => h'.2 ((Text.mem_bytes_iff (a := '"') (by decide)).1 hm)
  have hbytes := eq_of_end_mark hid hid' hpre.2
  exact Text.encode_injective (by rw [Text.encode_eq_of_bytes hbytes, Text.encode_eq_of_bytes rfl])

/-- **A file has the hooks that it was given last**, and no others that it did not have before. -/
theorem present_iff {ids ids' : List Text} {before after : Text}
    (h : Scattered (ids'.map attributeText) before after) (hids : ∀ id ∈ ids, IsPlain id)
    (hids' : ∀ id ∈ ids', IsPlain id)
    (hnew : ∀ id ∈ ids, ¬ Present [id] (Text.encode before)) :
    Present ids (Text.encode after) ↔ ids ⊆ ids' := by
  have hkept : Scattered (ids'.map fun id => Text.bytes (attributeText id)) (Text.bytes before)
    (Text.bytes after) := preserved_of_scattered h
  have hone : ∀ id ∈ ids, Text.bytes (attributeText id) <:+: Text.bytes after ↔ id ∈ ids' := by
    intro id hid
    have hbefore : ¬ Text.bytes (attributeText id) <:+: Text.bytes before :=
      fun hin => hnew id hid fun id' hid' => (List.mem_singleton.1 hid') ▸ hin
    rw [bytes_attributeText] at hbefore ⊢
    rw [hkept.infix_iff (not_mem_of_isPlain (hids id hid)) ?_ ?_ hbefore,
      ← bytes_attributeText, List.mem_map]
    · constructor
      · rintro ⟨id', hid', heq⟩
        have hpre : Text.bytes (attributeText id') <+: Text.bytes (attributeText id) ++ [] :=
          ⟨[], by rw [heq]⟩
        exact eq_of_beginning (hids' id' hid') (hids id hid) hpre ▸ hid'
      · exact fun hid' => ⟨id, hid', rfl⟩
    · intro piece hpiece
      obtain ⟨id', hid', rfl⟩ := List.mem_map.1 hpiece
      exact ⟨_, bytes_attributeText id', not_mem_of_isPlain (hids' id' hid')⟩
    · intro piece hpiece more hpre
      obtain ⟨id', hid', rfl⟩ := List.mem_map.1 hpiece
      rw [← bytes_attributeText] at hpre ⊢
      rw [eq_of_beginning (hids id hid) (hids' id' hid') hpre]
  exact ⟨fun hp id hid => (hone id hid).1 (hp id hid), fun hsub id hid => (hone id hid).2 (hsub hid)⟩

end UiHarness.Hook
