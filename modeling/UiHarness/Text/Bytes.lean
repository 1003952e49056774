import UiHarness.Text.Quoted

/-!
# Text in files

A file holds bytes.  Text is written to it in UTF-8, character by character and unchanged.  Text
is read back by decoding the bytes and then turning every line end -- a carriage return, a line
feed, or the one followed by the other -- into a line feed, so a text that is read never holds a
carriage return.

Bytes that are not UTF-8 are refused, with the place and the cause of the first failure:

* `decode`: the characters of a sequence of bytes, or why there are none;
* `decode_encode`: decoding what was encoded gives the text back;
* `unifyLineEnds`: every line end as a line feed.
-/

namespace UiHarness.Text

/-! ## 1.  UTF-8 -/

/-- A text in UTF-8. -/
def encode (t : Text) : ByteArray := (t.flatMap String.utf8EncodeChar).toByteArray

/-- Why a sequence of bytes is no text. -/
inductive DecodeCause
  | badStart
  | badContinuation
  | cutShort
  deriving DecidableEq, Repr

/-- The first place at which a sequence of bytes stops being text: the first byte that cannot be
decoded, its position, and how many bytes belong to the failed character. -/
structure Undecodable where
  byte : UInt8
  position : Nat
  width : Nat
  cause : DecodeCause
  deriving DecidableEq, Repr

/-- The bytes that may follow a first byte, as ranges, one for each; nothing if the byte starts no
character. -/
def continuations (b : UInt8) : Option (List (UInt8 × UInt8)) :=
  if b < 0x80 then some []
  else if b < 0xC2 then none
  else if b < 0xE0 then some [(0x80, 0xBF)]
  else if b = 0xE0 then some [(0xA0, 0xBF), (0x80, 0xBF)]
  else if b = 0xED then some [(0x80, 0x9F), (0x80, 0xBF)]
  else if b < 0xF0 then some [(0x80, 0xBF), (0x80, 0xBF)]
  else if b = 0xF0 then some [(0x90, 0xBF), (0x80, 0xBF), (0x80, 0xBF)]
  else if b < 0xF4 then some [(0x80, 0xBF), (0x80, 0xBF), (0x80, 0xBF)]
  else if b = 0xF4 then some [(0x80, 0x8F), (0x80, 0xBF), (0x80, 0xBF)]
  else none

/-- How many of the expected continuation bytes stand at the front, and why no more do. -/
def continued : List (UInt8 × UInt8) → List UInt8 → Nat × Option DecodeCause
  | [], _ => (0, none)
  | _ :: _, [] => (0, some .cutShort)
  | (lo, hi) :: more, b :: bs =>
    if lo ≤ b ∧ b ≤ hi then
      let (n, cause) := continued more bs
      (n + 1, cause)
    else (0, some .badContinuation)

/-- The first failure in a sequence of bytes that starts at a position.  The counter says how many
bytes of the current character are still to be passed over. -/
def explainFrom (position : Nat) : Nat → List UInt8 → Undecodable
  | _, [] => ⟨0, position, 1, .cutShort⟩
  | skip + 1, _ :: bs => explainFrom (position + 1) skip bs
  | 0, b :: bs =>
    match continuations b with
    | none => ⟨b, position, 1, .badStart⟩
    | some expected =>
      match continued expected bs with
      | (n, none) => explainFrom (position + 1) n bs
      | (n, some cause) => ⟨b, position, n + 1, cause⟩

/-- The text that a sequence of bytes encodes, or the first failure. -/
def decode (bytes : ByteArray) : Except Undecodable Text :=
  match bytes.utf8Decode? with
  | some cs => .ok cs.toList
  | none => .error (explainFrom 0 0 bytes.data.toList)

/-- Decoding what was encoded gives the text back. -/
theorem decode_encode (t : Text) : decode (encode t) = .ok t := by
  have h : encode t = t.utf8Encode := rfl
  simp [decode, h]

/-- The wording of a cause. -/
def DecodeCause.message : DecodeCause → Text
  | .badStart => "invalid start byte"
  | .badContinuation => "invalid continuation byte"
  | .cutShort => "unexpected end of data"

/-- The wording of a failure to decode. -/
def Undecodable.message (u : Undecodable) : Text :=
  let place : Text :=
    if u.width = 1 then
      "byte 0x" ++ hexPadded 2 u.byte.toNat ++ " in position " ++ ofNat u.position
    else
      "bytes in position " ++ ofNat u.position ++ "-" ++ ofNat (u.position + u.width - 1)
  "'utf-8' codec can't decode " ++ place ++ ": " ++ u.cause.message

/-! ## 2.  Line ends -/

/-- A text with every line end turned into a line feed. -/
def unifyLineEnds : Text → Text
  | [] => []
  | '\r' :: '\n' :: t => '\n' :: unifyLineEnds t
  | '\r' :: t => '\n' :: unifyLineEnds t
  | c :: t => c :: unifyLineEnds t

/-- The text of a file, with its line ends unified. -/
def ofFile (bytes : ByteArray) : Except Undecodable Text :=
  match decode bytes with
  | .ok t => .ok (unifyLineEnds t)
  | .error u => .error u

end UiHarness.Text
