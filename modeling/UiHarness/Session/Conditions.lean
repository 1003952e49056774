import UiHarness.Session
import UiHarness.Watch

/-!
# The conditions of a session

What a run meets outside itself can be written down as a document: what the repository's command
answers, what comes of the requests to the service, and what happens while the program watches.

* `Service.Reply.ofValue`: a text alone is a reply of one block; a table says what else comes of a
  request.
* `Git.answersOf`: a table of answers by the arguments with blanks between them.
* `Watch.Look.ofValues`: looks, each with its time, its files and its events.
* `Session.under`: a session in which nothing has been done yet.
-/

namespace UiHarness

namespace Value

/-- The entries of a list. -/
def elements : Value → List Value
  | list vs => vs
  | _ => []

/-- The text that a value is, or no text. -/
def textOrEmpty (v : Value) : Text := v.text?.getD []

/-- The number that a value is. -/
def number? : Value → Option Binary64
  | float x => some x
  | int n => some (.ofInt n)
  | _ => none

end Value

/-! ## 1.  Replies and answers -/

/-- A block of a reply. -/
def Service.Block.ofValue (v : Value) : Service.Block :=
  { kind := (v.get? "type").map Value.textOrEmpty
    text := (v.get? "text").map Value.textOrEmpty }

/-- What comes of a request: a text, blocks, or a failure.  A table that says nothing else is the
user's wish to stop. -/
def Service.Reply.ofValue (v : Value) : Service.Reply :=
  match v, v.get? "blocks", v.get? "status", v.get? "connection", v.get? "raise" with
  | .text t, _, _, _, _ => .blocks [{ kind := none, text := some t }]
  | _, some bs, _, _, _ => .blocks (bs.elements.map Service.Block.ofValue)
  | v, _, some (.int code), _, _ => .status code ((v.get? "body").getD .null).textOrEmpty
  | _, _, _, some why, _ => .unreachable why.textOrEmpty
  | _, _, _, _, some why => .failure why.textOrEmpty
  | _, _, _, _, _ => .interrupted

/-- The answers of the repository's command.  It refuses arguments that are not mentioned, and it
cannot be started if nothing stands in place of the table. -/
def Git.answersOf (v : Value) (arguments : List Text) : Option Git.Answer :=
  match v with
  | .null => none
  | v =>
    match v.get? (Text.join [' '] arguments) with
    | some (.list [.int code, .text output]) => some (code, output)
    | _ => some (128, [])

/-! ## 2.  Looks -/

/-- An event: its kind and one or two paths. -/
def FileEvent.ofValue? (v : Value) : Option FileEvent :=
  match v.elements with
  | [.text kind, .text path] =>
    some (if kind = ("mkdir" : Text) then .directoryCreated path else .created path)
  | [.text kind, .text old, .text new] =>
    some (if kind = ("movedir" : Text) then .directoryMoved old new else .moved old new)
  | _ => none

/-- The events of a look. -/
def FileEvent.listOf (v : Value) : List FileEvent :=
  ((v.get? "events").getD .null).elements.filterMap FileEvent.ofValue?

/-- Looks, the clock standing at a time before the first one.  A look that names no time is taken
at the time of the one before it. -/
def Watch.Look.ofValues (save : Disk → Value → Disk) (now : Binary64) :
    List Value → List Watch.Look
  | [] => []
  | v :: vs =>
    let now := ((v.get? "t").bind Value.number?).getD now
    { now, files := fun d => ((v.get? "files").getD .null).elements.foldl save d
      events := FileEvent.listOf v } :: Look.ofValues save now vs

/-! ## 3.  Sessions -/

/-- The variables of an environment. -/
def Session.environmentOf : Value → List (Text × Text)
  | .table es => es.map fun (name, v) => (name, v.textOrEmpty)
  | _ => []

/-- A session in which nothing has been done yet. -/
def Session.under (disk : Disk) (environment repository replies : Value) : Session :=
  { disk
    environment := environmentOf environment
    repository := Git.answersOf repository
    replies := replies.elements.map Service.Reply.ofValue }

end UiHarness
