import LSystem.Decimal.Reading

/-!
# Arguments

The command line names the description, and may replace its number of rounds, its seed and
its width, name a file for the result, and ask for the expanded word instead of curves.

Arguments are read from left to right, and the first one that is not understood ends the
reading; so does a request for the version. An option takes its value from the same
argument, behind `=` or, with a short name, directly behind the name, or else from the
next argument, which then may not look like an option itself. No option may be given
twice. Behind `--` nothing is an option.
-/

namespace LSystem.CommandLine

/-- What a command line asks for. -/
structure Arguments where
  description : Option String := none
  generations : Option UInt32 := none
  seed : Option UInt64 := none
  width : Option Float32 := none
  output : Option String := none
  printCommands : Bool := false
deriving DecidableEq, Repr

/-- Why the arguments ask for no evaluation. -/
inductive Refusal where
  | version
  | help
  /-- The arguments are not understood. -/
  | usage
deriving DecidableEq, Repr

/-- The options that take a value. -/
inductive Valued where
  | generations
  | seed
  | width
  | output
deriving DecidableEq, Repr

/-- What an option is. -/
inductive Flag where
  | valued (option : Valued)
  | printCommands
  | version
  | help
deriving DecidableEq, Repr

/-- The options by their long names. -/
def longFlag? : String → Option Flag
  | "generations" => some (.valued .generations)
  | "seed" => some (.valued .seed)
  | "width" => some (.valued .width)
  | "output" => some (.valued .output)
  | "print-commands" => some .printCommands
  | "version" => some .version
  | "help" => some .help
  | _ => none

/-- The options by their short names. -/
def shortFlag? : Char → Option Flag
  | 'o' => some (.valued .output)
  | 'V' => some .version
  | 'h' => some .help
  | _ => none

namespace Arguments

/-- Sets a place that may be set once. -/
def once {α : Type} (place value : Option α) : Except Refusal (Option α) :=
  match place, value with
  | none, some v => .ok (some v)
  | _, _ => .error .usage

/-- A text that is not empty. -/
def path? (text : String) : Option String := if text.isEmpty then none else some text

/-- Gives an option its value. -/
def set (a : Arguments) (option : Valued) (text : String) : Except Refusal Arguments :=
  match option with
  | .generations => do
    let value := Decimal.natOrMinusZeroUpTo? 4294967295 text
    return { a with generations := ← once a.generations (value.map (·.toUInt32)) }
  | .seed => do
    let value := Decimal.natUpTo? 18446744073709551615 text
    return { a with seed := ← once a.seed (value.map (·.toUInt64)) }
  | .width => return { a with width := ← once a.width (Decimal.single? text) }
  | .output => return { a with output := ← once a.output (path? text) }

/-- Takes an option that has no value. -/
def flag (a : Arguments) : Flag → Except Refusal Arguments
  | .printCommands =>
    if a.printCommands then .error .usage else .ok { a with printCommands := true }
  | .version => .error .version
  | .help => .error .help
  | .valued _ => .error .usage

/-- Takes an argument that is no option. -/
def positional (a : Arguments) (text : String) : Except Refusal Arguments := do
  return { a with description := ← once a.description (path? text) }

/-- Whether an argument cannot be the value of the option before it. -/
def looksLikeOption (text : String) : Bool := text.toList.head? = some '-' && text ≠ "-"

/-- What a group of short options comes to: arguments, and perhaps an option whose value is
the next argument. -/
abbrev Step := Except Refusal (Arguments × Option Valued)

/-- Takes a group of short options. -/
def short (a : Arguments) : List Char → Step
  | [] => .ok (a, none)
  | c :: cs =>
    match shortFlag? c with
    | some (.valued option) =>
      match cs with
      | [] => .ok (a, some option)
      | '=' :: value => (a.set option (String.ofList value)).map (·, none)
      | value => (a.set option (String.ofList value)).map (·, none)
    | some f =>
      match a.flag f with
      | .ok a => short a cs
      | .error r => .error r
    | none => .error .usage

/-- Takes a long option. -/
def long (a : Arguments) (text : List Char) : Step :=
  match text.span (· ≠ '=') with
  | (name, []) =>
    match longFlag? (String.ofList name) with
    | some (.valued option) => .ok (a, some option)
    | some f => (a.flag f).map (·, none)
    | none => .error .usage
  | (name, _ :: value) =>
    match longFlag? (String.ofList name) with
    | some (.valued option) => (a.set option (String.ofList value)).map (·, none)
    | _ => .error .usage

/-- Takes one argument. -/
def step (a : Arguments) (text : String) : Step :=
  match text.toList with
  | '-' :: '-' :: name => a.long name
  | '-' :: c :: cs => a.short (c :: cs)
  | _ => (a.positional text).map (·, none)

/-- Reads arguments, where `awaiting` is an option whose value comes next, and `only` says that
no options follow. -/
def readFrom (a : Arguments) (awaiting : Option Valued) (only : Bool) :
    List String → Except Refusal Arguments
  | [] =>
    match awaiting, a.description with
    | none, some _ => .ok a
    | _, _ => .error .usage
  | text :: texts =>
    match awaiting with
    | some option =>
      if looksLikeOption text then .error .usage
      else
        match a.set option text with
        | .ok a => readFrom a none only texts
        | .error r => .error r
    | none =>
      if only then
        match a.positional text with
        | .ok a => readFrom a none only texts
        | .error r => .error r
      else if text = "--" then readFrom a none true texts
      else
        match a.step text with
        | .ok (a, awaiting) => readFrom a awaiting only texts
        | .error r => .error r

/-- **What a list of arguments asks for.** -/
def read (texts : List String) : Except Refusal Arguments := readFrom {} none false texts

end Arguments

end LSystem.CommandLine
