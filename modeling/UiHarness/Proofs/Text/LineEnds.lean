import UiHarness.Proofs.Text.Splice

/-!
# What reading does to a text

Reading a file loses nothing but the difference between line ends: a text without carriage returns
comes back as it was written, and any other one does not.
-/

namespace UiHarness.Text

/-- A text is encoded as the bytes that it was decoded from. -/
theorem encode_of_decode {bytes : ByteArray} {t : Text} (h : decode bytes = .ok t) :
    encode t = bytes := by
  rw [decode] at h
  split at h
  · rename_i chars hc
    obtain rfl := Except.ok.inj h
    have hs : bytes.utf8Decode?.isSome := by
      rw [hc]
      rfl
    have hb : (bytes.utf8Decode?.get hs).toList.utf8Encode = bytes :=
      ByteArray.utf8Encode_get_utf8Decode?
    simp only [hc, Option.get_some] at hb
    exact hb
  · cases h

/-- The text of a file comes from the text that its bytes encode. -/
theorem of_ofFile {bytes : ByteArray} {t : Text} (h : ofFile bytes = .ok t) :
    ∃ raw, bytes = encode raw ∧ unifyLineEnds raw = t := by
  rw [ofFile] at h
  split at h
  · rename_i raw hraw
    exact ⟨raw, (encode_of_decode hraw).symm, Except.ok.inj h⟩
  · cases h

theorem unifyLineEnds_cons_of_ne {c : Char} (t : Text) (h : c ≠ '\r') :
    unifyLineEnds (c :: t) = c :: unifyLineEnds t := by
  rw [unifyLineEnds]
  · rintro t' rfl
    exact absurd rfl h
  · rintro rfl
    exact absurd rfl h

/-- A text that was read holds no carriage return. -/
theorem not_mem_unifyLineEnds (t : Text) : '\r' ∉ unifyLineEnds t := by
  induction t using unifyLineEnds.induct with
  | case1 => exact List.not_mem_nil
  | case2 t ih =>
    rw [unifyLineEnds, List.mem_cons, not_or]
    exact ⟨by decide, ih⟩
  | case3 t hn ih =>
    rw [unifyLineEnds, List.mem_cons, not_or]
    · exact ⟨by decide, ih⟩
    · exact hn
  | case4 c t hn hc ih =>
    rw [unifyLineEnds_cons_of_ne t hc, List.mem_cons, not_or]
    exact ⟨fun h => hc h.symm, ih⟩

/-- **Reading keeps exactly the texts without carriage returns.** -/
theorem unifyLineEnds_eq_self {t : Text} : unifyLineEnds t = t ↔ '\r' ∉ t := by
  refine ⟨fun h => h ▸ not_mem_unifyLineEnds t, fun h => ?_⟩
  induction t with
  | nil => rfl
  | cons c t ih =>
    rw [List.mem_cons, not_or] at h
    rw [unifyLineEnds_cons_of_ne t fun hc => h.1 hc.symm, ih h.2]

/-- Only a character below 128 has its byte. -/
theorem eq_of_mem_utf8EncodeChar {a c : Char} (ha : a.toNat < 128)
    (h : UInt8.ofNat a.toNat ∈ String.utf8EncodeChar c) : c = a := by
  rw [String.utf8EncodeChar] at h
  split at h
  · rename_i hle
    rw [List.mem_singleton, ← UInt8.toNat_inj, UInt8.toNat_ofNat', UInt8.toNat_ofNat'] at h
    apply Char.ext
    apply UInt32.toNat_inj.1
    change c.toNat = a.toNat
    change c.toNat ≤ _ at hle
    change a.toNat % _ = c.toNat % _ at h
    omega
  · have hhigh : ∀ n, 128 ≤ n → n < 256 → UInt8.ofNat a.toNat ≠ UInt8.ofNat n := by
      intro n hn hn' heq
      rw [← UInt8.toNat_inj, UInt8.toNat_ofNat', UInt8.toNat_ofNat'] at heq
      omega
    split at h
    · simp only [List.mem_cons, List.not_mem_nil, or_false] at h
      rcases h with h | h
      · exact absurd h (hhigh _ (by omega) (by omega))
      · exact absurd h (hhigh _ (by omega) (by omega))
    · split at h
      · simp only [List.mem_cons, List.not_mem_nil, or_false] at h
        rcases h with h | h | h
        · exact absurd h (hhigh _ (by omega) (by omega))
        · exact absurd h (hhigh _ (by omega) (by omega))
        · exact absurd h (hhigh _ (by omega) (by omega))
      · simp only [List.mem_cons, List.not_mem_nil, or_false] at h
        rcases h with h | h | h | h
        · exact absurd h (hhigh _ (by omega) (by omega))
        · exact absurd h (hhigh _ (by omega) (by omega))
        · exact absurd h (hhigh _ (by omega) (by omega))
        · exact absurd h (hhigh _ (by omega) (by omega))

/-- The byte of a character below 128 stands only where the character does. -/
theorem mem_bytes_iff {a : Char} (ha : a.toNat < 128) {t : Text} :
    UInt8.ofNat a.toNat ∈ bytes t ↔ a ∈ t := by
  rw [bytes_eq_flatMap, List.mem_flatMap]
  constructor
  · rintro ⟨c, hc, hb⟩
    exact eq_of_mem_utf8EncodeChar ha hb ▸ hc
  · refine fun h => ⟨a, h, ?_⟩
    have hle : a.val.toNat ≤ 127 := Nat.le_of_lt_succ ha
    rw [String.utf8EncodeChar, if_pos hle]
    exact List.mem_singleton_self _

/-- The bytes of carriage returns are counted. -/
theorem count_bytes_eq_zero_iff {t : Text} : (bytes t).count 13 = 0 ↔ '\r' ∉ t := by
  rw [List.count_eq_zero, ← mem_bytes_iff (by decide)]
  rfl

end UiHarness.Text
