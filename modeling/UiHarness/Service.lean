import UiHarness.Fault
import UiHarness.Value

/-!
# The writing service

A service writes texts on request.  A request names a model and its limits and carries two texts:
what the model is told about its role, and what it is asked.  The answer is a row of blocks, of
which those of text count, or one of several failures.  A request is never repeated.
-/

namespace UiHarness.Service

/-- A request to the service. -/
structure Request where
  /-- The key that the user of the service has. -/
  key : Text
  model : Value
  /-- The greatest length of the answer. -/
  maxTokens : Value
  temperature : Value
  /-- What the model is told about its role. -/
  role : Text
  /-- What the model is asked. -/
  prompt : Text

/-- A part of an answer. -/
structure Block where
  /-- What the part is; a part that does not say it is a text. -/
  kind : Option Text
  text : Option Text
  deriving DecidableEq, Repr

/-- What comes of a request. -/
inductive Reply
  | blocks (bs : List Block)
  /-- The service answers with an error. -/
  | status (code : Int) (body : Text)
  /-- The service cannot be reached. -/
  | unreachable (why : Text)
  /-- The request fails in some other way. -/
  | failure (why : Text)
  /-- The user stops the program while the request is under way. -/
  | interrupted
  deriving DecidableEq, Repr

/-- The kind of blocks that are texts. -/
def textKind : Text := "text"

/-- The text of an answer's blocks. -/
def textOf : List Block → Except Fault Text
  | [] => .ok []
  | b :: bs =>
    if b.kind.getD textKind = textKind then
      match b.text with
      | some t => do .ok (t ++ (← textOf bs))
      | none => .error (.noProperty "'types.SimpleNamespace' object has no attribute 'text'")
    else textOf bs

/-- The text that comes of a request. -/
def Reply.text : Reply → Except Fault Text
  | blocks bs => textOf bs
  | status code body =>
    .error (.service ("Anthropic API error: " ++ Text.ofInt code ++ " - " ++ body) (some code)
      (some body))
  | unreachable why => .error (.service ("Anthropic API call failed: " ++ why) none none)
  | failure why => .error (.failure why)
  | interrupted => .error .interrupted

end UiHarness.Service
