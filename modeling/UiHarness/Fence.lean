import UiHarness.Json.Parser
import UiHarness.Text.Blank
import UiHarness.Text.Word
import UiHarness.Fault

/-!
# Fenced blocks

A reply holds code or JSON in a fenced block: a mark of three backticks with a tag and at most
blanks behind it, the lines of the block, and the next mark.

* `Fence.code`: the code of a reply.
* `Fence.json`: the value that a reply holds in JSON.
-/

namespace UiHarness.Fence

open Text

/-- The mark before and behind a block. -/
def mark : Text := "```"

/-- The rest behind the blanks and the end of the line of an opening mark. -/
def lineEnd? (t : Text) : Option Text :=
  match t.dropWhile fun c => c = ' ' || c = '\t' with
  | '\n' :: r => some r
  | _ => none

/-- A tag of word characters and hyphens, which may be empty. -/
def anyTag? (t : Text) : Option Text := some (t.dropWhile fun c => isWord c || c = '-')

/-- A block whose tag is read by `tag?`: the text between its marks, and the rest. -/
def block? (tag? : Text → Option Text) (t : Text) : Option (Text × Text) := do
  let r ← after? mark t
  let r ← tag? r
  let r ← lineEnd? r
  cut? mark r

/-- The text of the first block whose tag is read by `tag?`. -/
def first? (tag? : Text → Option Text) (t : Text) : Option Text :=
  (findFirst? (block? tag?) t).map fun found => strip found.1

/-- The code of a reply: its first block in a language, or else its first block, or else the whole
reply. -/
def code (language reply : Text) : Text :=
  match first? (after? language) reply with
  | some t => t
  | none =>
    match first? anyTag? reply with
    | some t => t
    | none => strip reply

/-- The part of a reply that can be JSON: its first block of JSON, or else the whole reply if it
looks like a table. -/
def jsonText? (reply : Text) : Option Text :=
  match first? (after? "json") reply with
  | some t => some t
  | none =>
    let t := strip reply
    if startsWith t ['\x7b'] && endsWith t ['\x7d'] then some t else none

/-- The value that a reply holds in JSON, if it holds one.  JSON that is sound but too large is a
fault. -/
def json (reply : Text) : Except Fault (Option Value) :=
  match jsonText? reply with
  | none => .ok none
  | some t =>
    match Json.parse t with
    | .ok v => .ok (some v)
    | .error (.defect _ _) => .ok none
    | .error f => .error (.json t f)

end UiHarness.Fence
