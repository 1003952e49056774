import UiHarness.Value

/-!
# Payloads

A payload is the table that an analysis is told in.  Its entries are read one by one: a flag must
be a truth value; a list keeps those members that have a plain text; anything else in the place of
a list or a text counts as empty.
-/

namespace UiHarness.Payload

/-- The truth value of a key. -/
def flag? (payload : Value) (key : Text) : Option Bool := (payload.get? key).bind Value.bool?

/-- A member of a list as text: texts, numbers and truth values have one. -/
def memberText? : Value → Option Text
  | .text t => some t
  | .bool b => some (Value.bool b).display
  | .int n => some (Value.int n).display
  | .float x => some (Value.float x).display
  | _ => none

/-- The texts in the list of a key. -/
def texts (payload : Value) (key : Text) : List Text :=
  match payload.get? key with
  | some (.list vs) => vs.filterMap memberText?
  | _ => []

/-- The text of a key. -/
def text (payload : Value) (key : Text) : Text :=
  match payload.get? key with
  | some (.text t) => t
  | _ => []

/-- Texts as a list. -/
def ofTexts (ts : List Text) : Value := .list (ts.map .text)

/-- A list of texts is read as it was written. -/
theorem filterMap_memberText? (ts : List Text) :
    (ts.map Value.text).filterMap memberText? = ts := by
  induction ts with
  | nil => rfl
  | cons t ts ih => simp [memberText?, ih]

/-- What an analysis says that was made without a payload. -/
def keywordReasoning : Text := "Fallback analysis based on keyword matching"

end UiHarness.Payload
