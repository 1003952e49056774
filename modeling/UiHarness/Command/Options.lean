import UiHarness.Command.Arguments

/-!
# Options

The program has three commands: `detect` shows the new units, `generate` generates for them, and
`watch` generates whenever units appear.  The settings file is chosen in front of the command, all
other options behind it.

* `Options.parse`: the options in the arguments of the program.
-/

namespace UiHarness

/-- What the program is to do. -/
inductive Command
  | detect
  | generate
  | watch
  deriving DecidableEq, Repr

/-- What an option with a value chooses: nothing if it is not used, else a text, or none of all
texts. -/
abbrev Choice := Option (Option Text)

/-- What the arguments of the program choose. -/
structure Options where
  command : Command
  /-- The settings file. -/
  config : Choice := none
  baseBranch : Choice := none
  verbose : Bool := false
  dryRun : Bool := false
  skipsHooks : Bool := false
  /-- The file that detected units are saved in. -/
  outputFile : Choice := none
  /-- The file that units are read from. -/
  unitsFile : Choice := none
  deriving DecidableEq, Repr

namespace Options

/-- The version of the program. -/
def version : Text := "widgetsmith 0.1.0"

/-- What the value of an option chooses; a double hyphen chooses no text. -/
def choice (t : Text) : Choice := if t = ("--" : Text) then some none else some (some t)

/-- Options that stop the program. -/
def helpOptions {α : Type} : OptionTable α := [("-h", .stop .help), ("--help", .stop .help)]

/-- The options in front of the command. -/
def outerOptions : OptionTable Choice :=
  let own : OptionTable Choice :=
    [("--config", .take fun t _ => choice t), ("--version", .stop .version)]
  helpOptions ++ own

/-- The options of all commands. -/
def commonOptions : OptionTable Options :=
  let own : OptionTable Options := [
    ("--base-branch", .take fun t o => { o with baseBranch := choice t }),
    ("--verbose", .switch fun o => { o with verbose := true }),
    ("-v", .switch fun o => { o with verbose := true })]
  helpOptions ++ own

/-- The options of the commands that generate. -/
def generationOptions : OptionTable Options := [
  ("--dry-run", .switch fun o => { o with dryRun := true }),
  ("--skip-test-hooks", .switch fun o => { o with skipsHooks := true })]

/-- The option for the file that detected units are saved in. -/
def outputOptions : OptionTable Options :=
  [("--output-file", .take fun t o => { o with outputFile := choice t })]

/-- The option for the file that units are read from. -/
def inputOptions : OptionTable Options :=
  [("--units-file", .take fun t o => { o with unitsFile := choice t })]

/-- The options of a command. -/
def optionsOf : Command → OptionTable Options
  | .detect => commonOptions ++ outputOptions
  | .generate => commonOptions ++ generationOptions ++ inputOptions
  | .watch => commonOptions ++ generationOptions

/-- The command of a name. -/
def command? (t : Text) : Option Command :=
  if t = ("detect" : Text) then some .detect
  else if t = ("generate" : Text) then some .generate
  else if t = ("watch" : Text) then some .watch
  else none

/-- Follows arguments behind the command, at most `n` of them.  Values have no place there: the
options are followed to the end, and then values count as misuse. -/
def inner (table : OptionTable Options) :
    Nat → Bool → Options → List (Text × Arguments.Kind Options) → Except EarlyEnd Options
  | _, isClean, o, [] => if isClean then .ok o else .error .misuse
  | 0, _, _, _ => .error .misuse
  | n + 1, isClean, o, (_, kind) :: rest =>
    match kind with
    | .option u => do
      let (o, rest) ← Arguments.apply table u o rest
      inner table n isClean o rest
    | _ => inner table n false o rest

/-- The options of a command in the arguments behind it. -/
def ofCommand (c : Command) (config : Choice) (arguments : List Text) :
    Except EarlyEnd Options := do
  let table := optionsOf c
  let kinds ← Arguments.classify table arguments
  inner table kinds.length true { command := c, config } kinds

/-- Follows arguments up to the command, at most `n` of them.  An option that there is not is
passed over, but it is misuse in the end. -/
def outer : Nat → Bool → Choice → List (Text × Arguments.Kind Choice) →
    Except EarlyEnd Options
  | 0, _, _, _ => .error .misuse
  | _, _, _, [] => .error .misuse
  | n + 1, isClean, config, (argument, kind) :: rest =>
    match kind with
    | .option u => do
      let (config, rest) ← Arguments.apply outerOptions u config rest
      outer n isClean config rest
    | .unknown => outer n false config rest
    | .separator => .error .misuse
    | .value =>
      match command? argument with
      | none => .error .misuse
      | some c => do
        let o ← ofCommand c config (rest.map Prod.fst)
        if isClean then .ok o else .error .misuse

/-- The options in the arguments of the program. -/
def parse (arguments : List Text) : Except EarlyEnd Options := do
  let kinds ← Arguments.classify outerOptions arguments
  outer (kinds.length + 1) true none kinds

end Options

end UiHarness
