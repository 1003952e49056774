import UiHarness.Git
import UiHarness.Report
import UiHarness.Service
import UiHarness.Settings

/-!
# Sessions

A session is everything that a run of the program meets: the files, the environment, a repository
that can be asked, and a service that writes texts.  It also keeps what the run has done so far:
the lines it reported, the questions it put to the repository, and its requests to the service.
A job is a step of a run; it may change the session and may fail.

* `Job.say`: reports a line.
* `Job.onDisk`: changes the files.
* `Job.askRepository`: the answer of the repository's command.
* `Job.request`: a text from the service.
* `Job.attempt`: what comes of a job that may fail, unless the user stops the program.
-/

namespace UiHarness

/-- A step of the observer of the file system. -/
inductive Observation
  /-- A directory is to be observed, with everything below it. -/
  | root (path : Text)
  | start
  | stop
  /-- The observer has ended. -/
  | join
  deriving DecidableEq, Repr

/-- What a run of the program meets, and what it has done. -/
structure Session where
  disk : Disk
  /-- The variables of the environment. -/
  environment : List (Text × Text) := []
  /-- The answers of the repository's command to its arguments; none if it cannot be started. -/
  repository : List Text → Option Git.Answer := fun _ => none
  /-- What will come of the requests to the service, one after the other. -/
  replies : List Service.Reply := []
  /-- The lines that were reported. -/
  lines : List Text := []
  /-- The arguments that the repository's command was given, and the directories. -/
  questions : List (List Text × Option Text) := []
  /-- The requests that were made. -/
  requests : List Service.Request := []
  /-- The steps of the observer of the file system. -/
  observations : List Observation := []

/-- A step of a run. -/
abbrev Job (α : Type) := ExceptT Fault (StateM Session) α

namespace Job

/-! ## 1.  Steps -/

/-- What comes of a job, and the session after it. -/
def outcome {α : Type} (job : Job α) (s : Session) : Except Fault α × Session := job.run.run s

/-- Reports a line. -/
def say (line : Text) : Job Unit := modify fun s => { s with lines := s.lines ++ [line] }

/-- Reports a line if a condition holds. -/
def sayIf (condition : Bool) (line : Text) : Job Unit :=
  if condition then say line else pure ()

/-- A result that needs no session. -/
def ofExcept {α : Type} (result : Except Fault α) : Job α := ExceptT.mk (pure result)

/-- A step that reports lines. -/
def report {α : Type} (step : Reporting α) : Job α :=
  ExceptT.mk fun s =>
    let (lines, result) := step.outcome
    (result, { s with lines := s.lines ++ lines })

/-- The files. -/
def disk : Job Disk := do return (← get).disk

/-- Changes the files.  What was changed before a failure stays changed. -/
def onDisk {α : Type} (change : Disk → Disk × Except Fault α) : Job α :=
  ExceptT.mk fun s =>
    let (d, result) := change s.disk
    (result, { s with disk := d })

/-- A step of the observer of the file system. -/
def observe (step : Observation) : Job Unit :=
  modify fun s => { s with observations := s.observations ++ [step] }

/-- What comes of a job: a value or a fault.  A fault that stops the program is not held back. -/
def attempt {α : Type} (job : Job α) : Job (Except Fault α) :=
  ExceptT.mk fun s =>
    match job.outcome s with
    | (.ok a, s') => (.ok (.ok a), s')
    | (.error f, s') => (if f.stopsAll then .error f else .ok (.error f), s')

/-! ## 2.  The repository -/

/-- The answer of the repository's command to some arguments in a directory. -/
def askRepository (arguments : List Text) (directory : Option Path) : Job Text := do
  let s ← get
  set { s with questions := s.questions ++ [(arguments, directory.map Path.text)] }
  return Git.answer (s.repository arguments)

/-- The files that changed since a branch. -/
def changes (base : Text) (directory : Option Path) : Job Git.Changes := do
  return .parse (← askRepository (Git.changesArguments base) directory)

/-- The name of the current branch. -/
def currentBranch (directory : Option Path) : Job Text :=
  askRepository Git.branchArguments directory

/-- Whether there is a repository. -/
def hasRepository (directory : Option Path) : Job Bool := do
  return (← askRepository Git.repositoryArguments directory) = ("true" : Text)

/-! ## 3.  The service -/

/-- The key for the service, from the environment.  A variable that is empty holds none. -/
def serviceKey (m : ModelSettings) : Job Text := do
  match m.keyVariable with
  | .text name =>
    match Table.lookup name (← get).environment with
    | some (c :: key) => return c :: key
    | _ =>
      throw (.service ("API key not found in environment variable " ++ name ++ ".") none none)
  | v => throw (.wrongKind ("str expected, not " ++ v.shortKindName))

/-- The next reply of the service.  One that has no more replies fails. -/
def nextReply : Job Service.Reply := do
  let s ← get
  match s.replies with
  | [] => return .failure "no scripted reply"
  | reply :: rest =>
    set { s with replies := rest }
    return reply

/-- A text from the service, of the given greatest length or that of the settings. -/
def request (m : ModelSettings) (role prompt : Text) (maxTokens : Value) : Job Text := do
  let key ← serviceKey m
  let made : Service.Request :=
    { key, model := m.model, temperature := m.temperature, role, prompt
      maxTokens := if maxTokens.isTrue then maxTokens else m.maxTokens }
  modify fun s => { s with requests := s.requests ++ [made] }
  ofExcept (← nextReply).text

end Job

end UiHarness
