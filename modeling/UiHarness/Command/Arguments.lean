import UiHarness.Text.Digit

/-!
# Arguments of commands

The arguments of a command are options and values.  An option begins with a hyphen; it has names
of one letter or of words, and it may take one value, which stands behind it or, after an equals
sign, in the same argument.  A name of words may be shortened as long as it means one option;
letters may be written together behind one hyphen.  A negative number, an argument with a blank,
and all arguments behind a double hyphen are values even if they begin with a hyphen.

* `Arguments.classify`: what each argument is.
* `Arguments.apply`: the effect of an option.
-/

namespace UiHarness

/-- Why the program stops before its work. -/
inductive EarlyEnd
  /-- The user asks for help. -/
  | help
  /-- The user asks for the version. -/
  | version
  /-- The arguments cannot be understood. -/
  | misuse
  deriving DecidableEq, Repr

/-- What an option does to what is chosen. -/
inductive Effect (α : Type)
  /-- The program stops. -/
  | stop (why : EarlyEnd)
  /-- Something is switched on. -/
  | switch (change : α → α)
  /-- A value is taken. -/
  | take (change : Text → α → α)

/-- The options of a command by their names. -/
abbrev OptionTable (α : Type) := List (Text × Effect α)

namespace Arguments

variable {α : Type}

/-! ## 1.  Reading an argument -/

/-- The effect of a name. -/
def effectOf? (table : OptionTable α) (name : Text) : Option (Effect α) :=
  match table with
  | [] => none
  | (n, e) :: rest => if n = name then some e else effectOf? rest name

/-- An option as it was written: its name, its effect, and the value in the same argument. -/
structure Use (α : Type) where
  name : Text
  effect : Effect α
  value : Option Text

/-- What an argument is. -/
inductive Kind (α : Type)
  | value
  /-- The double hyphen. -/
  | separator
  | option (u : Use α)
  /-- An option that there is not. -/
  | unknown

/-- The options that an argument can mean by a shortened name or by its first letter. -/
def candidates (table : OptionTable α) (argument : Text) : List (Use α) :=
  match argument with
  | '-' :: '-' :: _ =>
    let (front, value) : Text × Option Text :=
      match Text.cut? ['='] argument with
      | some (front, value) => (front, some value)
      | none => (argument, none)
    (table.filter fun o => Text.startsWith o.1 front).map fun o => ⟨o.1, o.2, value⟩
  | _ =>
    table.filterMap fun o =>
      if o.1 = argument.take 2 then some ⟨o.1, o.2, some (argument.drop 2)⟩
      else if Text.startsWith o.1 argument then some ⟨o.1, o.2, none⟩
      else none

/-- Whether a text consists of digits; a line feed may follow. -/
def areDigits (t : Text) : Bool :=
  match t.span Text.isDigit with
  | (_ :: _, []) | (_ :: _, ['\n']) => true
  | _ => false

/-- Whether an argument is a negative number. -/
def isNegativeNumber (argument : Text) : Bool :=
  match argument with
  | '-' :: r =>
    areDigits r ||
      match r.dropWhile Text.isDigit with
      | '.' :: r => areDigits r
      | _ => false
  | _ => false

/-- What an argument is that begins with a hyphen and is not the name of an option. -/
def kindOfShortened (table : OptionTable α) (argument : Text) : Except EarlyEnd (Kind α) :=
  match candidates table argument with
  | [u] => .ok (.option u)
  | _ :: _ :: _ => .error .misuse
  | [] =>
    if isNegativeNumber argument || ' ' ∈ argument then .ok .value else .ok .unknown

/-- What an argument is. -/
def kindOf (table : OptionTable α) (argument : Text) : Except EarlyEnd (Kind α) :=
  if !Text.startsWith argument ['-'] then .ok .value
  else
    match effectOf? table argument with
    | some e => .ok (.option ⟨argument, e, none⟩)
    | none =>
      if argument = ['-'] then .ok .value
      else
        match Text.cut? ['='] argument with
        | some (name, value) =>
          match effectOf? table name with
          | some e => .ok (.option ⟨name, e, some value⟩)
          | none => kindOfShortened table argument
        | none => kindOfShortened table argument

/-- What each argument is. -/
def classify (table : OptionTable α) : List Text → Except EarlyEnd (List (Text × Kind α))
  | [] => .ok []
  | a :: rest =>
    if a = ("--" : Text) then .ok ((a, .separator) :: rest.map fun b => (b, .value))
    else do
      let kind ← kindOf table a
      .ok ((a, kind) :: (← classify table rest))

/-! ## 2.  Options -/

/-- Whether a name is a letter behind one hyphen. -/
def isLetter (name : Text) : Bool := !Text.startsWith name "--"

/-- The effects of letters that are written together, from the letters behind the first one on.
The last one may still need a value from the next argument. -/
def letters (table : OptionTable α) (name : Text) (effect : Effect α) :
    Text → Except EarlyEnd (List (Effect α) × Option (Text → α → α))
  | [] =>
    match effect with
    | .take change => .ok ([], some change)
    | e => .ok ([e], none)
  | c :: rest =>
    match effect with
    | .take change => .ok ([.switch (change (c :: rest))], none)
    | e =>
      if isLetter name then
        match effectOf? table ['-', c] with
        | none => .error .misuse
        | some next => do
          let (es, waiting) ← letters table ['-', c] next rest
          .ok (e :: es, waiting)
      else .error .misuse

/-- The effects of an option, and whether it still needs a value from the next argument. -/
def effects (table : OptionTable α) (u : Use α) :
    Except EarlyEnd (List (Effect α) × Option (Text → α → α)) :=
  match u.value, u.effect with
  | some value, .take change => .ok ([.switch (change value)], none)
  | some [], _ => .error .misuse
  | value, _ => letters table u.name u.effect (value.getD [])

/-- Does what effects do, one after the other. -/
def perform (chosen : α) : List (Effect α) → Except EarlyEnd α
  | [] => .ok chosen
  | .stop why :: _ => .error why
  | .switch change :: es => perform (change chosen) es
  | .take _ :: es => perform chosen es

/-- What is chosen after an option, and the arguments behind it and its value. -/
def apply (table : OptionTable α) (u : Use α) (chosen : α) (rest : List (Text × Kind α)) :
    Except EarlyEnd (α × List (Text × Kind α)) := do
  let (es, waiting) ← effects table u
  match waiting, rest with
  | none, rest => .ok (← perform chosen es, rest)
  | some change, (value, .value) :: rest => .ok (change value (← perform chosen es), rest)
  | some _, _ => .error .misuse

end Arguments

end UiHarness
