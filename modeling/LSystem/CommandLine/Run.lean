import LSystem.CommandLine.Arguments
import LSystem.CommandLine.Files
import LSystem.Curve.Json
import LSystem.Log.Filter
import LSystem.Log.Narration

/-!
# Running the command line

One run reads a description, evaluates its ribbon and delivers the result: to a file if
the arguments name one, to the standard output otherwise. The result is there in full
before anything is delivered, so a run that fails has delivered nothing, unless it is the
standard output that has failed in the middle of the result.

A failure is reported with what was being done at the time and with the causes behind it.
What the log filter admits is told on the way.
-/

namespace LSystem.CommandLine

open Log

/-- How a run ends, apart from what it has written and printed. -/
structure Outcome where
  exitCode : UInt32
  /-- The lines of the error output. -/
  errors : List String := []
deriving DecidableEq, Repr

/-- A failure: what was being done, and the causes, the nearest one first. -/
structure Failure where
  doing : String
  causes : List String
deriving DecidableEq, Repr

namespace Failure

/-- The lines of a text, the first behind `head`, the others behind `indent`. -/
def indented (head indent text : String) : List String :=
  match text.splitOn "\n" with
  | [] => []
  | line :: lines => (head ++ line) :: lines.map (indent ++ ·)

/-- The lines of numbered causes. -/
def numbered (n : Nat) : List String → List String
  | [] => []
  | cause :: causes =>
    indented ("    " ++ Decimal.natText n ++ ": ") "       " cause ++ numbered (n + 1) causes

/-- The lines of a failure. A single cause goes without a number. -/
def lines (f : Failure) : List String :=
  indented "Error: " "" f.doing ++
    match f.causes with
    | [] => []
    | [cause] => ["", "Caused by:"] ++ indented "    " "    " cause
    | causes => ["", "Caused by:"] ++ numbered 0 causes

/-- The texts of an error and of what is behind it. -/
def causesOf : Error → List String
  | .file path fault => [(Error.file path fault).message, fault.message]
  | e => [e.message]

/-- An error that came up while something was being done. -/
def during (doing : String) (e : Error) : Failure := ⟨doing, causesOf e⟩

/-- An error that speaks for itself. -/
def alone (e : Error) : Failure :=
  match causesOf e with
  | [] => ⟨"", []⟩
  | text :: causes => ⟨text, causes⟩

end Failure

/-! ### The ribbon and its result -/

/-- The text of the content of a file. -/
def textOf (content : ByteArray) : Except FileFault String :=
  match String.fromUTF8? content with
  | some text => .ok text
  | none => .error .notText

/-- The ribbon in a file with the given content, and what is told of its loading. -/
def load (path : String) (content : Except FileFault ByteArray) :
    List Event × Except Error Ribbon :=
  match content.bind textOf with
  | .error fault => ([], .error (.file path fault))
  | .ok text =>
    match Description.ofText text with
    | .error fault => ([], .error (.malformed (.unreadable fault)))
    | .ok d =>
      match Ribbon.ofDescription d with
      | .error defect => ([], .error (.malformed defect))
      | .ok r => (r.grammar.loadEvents d, .ok r)

/-- A ribbon with the replacements that the arguments ask for. -/
def Arguments.adjust (a : Arguments) (r : Ribbon) : Ribbon :=
  let r := a.generations.elim r r.withGenerations
  let r := a.seed.elim r r.withSeed
  a.width.elim r r.withWidth

/-- **The result that the arguments ask for,** and what is told on the way. -/
def Arguments.result (a : Arguments) (r : Ribbon) : List Event × Except Failure String :=
  if a.printCommands then
    (r.expansionEvents r.expand, r.commandText.mapError Failure.alone)
  else
    (r.evaluationEvents,
      match r.evaluate with
      | .ok b => .ok b.toJson.text
      | .error e => .error (.during "evaluating ribbon" e))

/-! ### A run -/

/-- What is told at the end of a run. -/
def done : Event := { level := .info, target := "ribbon", message := "done" }

/-- What the version option prints. -/
def versionText : String := "lsystem-ribbon 0.1.0\n"

/-- What the help option prints. -/
def helpText : String :=
  "Evaluate an L-System ribbon description\n\n"
    ++ "Usage: ribbon [OPTIONS] <DESCRIPTION>\n\n"
    ++ "Arguments:\n"
    ++ "  <DESCRIPTION>  Path to the JSON grammar description\n\n"
    ++ "Options:\n"
    ++ "      --generations <GENERATIONS>  "
    ++ "Override the description's generation count (expansion is exponential)\n"
    ++ "      --seed <SEED>                Override the seed used for stochastic rules\n"
    ++ "      --width <WIDTH>              Override the uniform curve width\n"
    ++ "  -o, --output <OUTPUT>            Write the curve buffer here instead of stdout\n"
    ++ "      --print-commands             "
    ++ "Print the expanded command string instead of evaluating curves\n"
    ++ "  -h, --help                       Print help\n"
    ++ "  -V, --version                    Print version\n"

variable {m : Type → Type} [Monad m]

/-- The answer to arguments that ask for no evaluation. It does not matter whether a text that has
been asked for can be printed. A deviation: arguments that are not understood are refused by the
exit code alone, without the text that tells what is wrong with them. -/
def Refusal.answer (files : FileAccess m) : Refusal → m Outcome
  | .version => do
    let _ ← files.print versionText
    return { exitCode := 0 }
  | .help => do
    let _ ← files.print helpText
    return { exitCode := 0 }
  | .usage => return { exitCode := 2 }

/-- The outcome of a failure, after some events. -/
def failed (filter : Filter) (events : List Event) (f : Failure) : Outcome :=
  { exitCode := 1, errors := (events.filter filter.admits).map Event.line ++ f.lines }

/-- The outcome of success, after some events. -/
def succeeded (filter : Filter) (events : List Event) : Outcome :=
  { exitCode := 0, errors := ((events ++ [done]).filter filter.admits).map Event.line }

/-- **A run** with arguments that have been understood. -/
def evaluate (files : FileAccess m) (filter : Filter) (path : String) (a : Arguments) :
    m Outcome := do
  let (events, ribbon) := load path (← files.read path)
  match ribbon with
  | .error e => return failed filter events (.during ("loading " ++ path) e)
  | .ok r =>
    let (more, result) := a.result (a.adjust r)
    let events := events ++ more
    match result with
    | .error f => return failed filter events f
    | .ok payload =>
      -- From here on only the delivery can fail.
      match a.output with
      | none =>
        match ← files.print (payload ++ "\n") with
        | .ok _ => return succeeded filter events
        | .error fault => return failed filter events ⟨fault.message, []⟩
      | some target =>
        match ← files.write target payload with
        | .ok _ => return succeeded filter events
        | .error fault => return failed filter events ⟨"writing " ++ target, [fault.message]⟩

/-- **A run** with the given arguments and log setting. -/
def run (files : FileAccess m) (setting : Option String) (arguments : List String) : m Outcome :=
  match Arguments.read arguments with
  | .error r => r.answer files
  | .ok a =>
    match a.description with
    | none => Refusal.usage.answer files
    | some path => evaluate files (.ofSetting setting) path a

end LSystem.CommandLine
