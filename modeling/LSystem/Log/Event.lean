import LSystem.Decimal.Numeral

/-!
# Log events

What a program tells about its work: how important it is, which part of the program tells
it, what it says, and the numbers that go with it. An event is written on a line.
-/

namespace LSystem.Log

/-- How important an event is. -/
inductive Level where
  | error
  | warn
  | info
  | debug
  | trace
deriving DecidableEq, Repr

namespace Level

/-- Levels in their order; the more there is to see, the greater. -/
def rank : Level → Nat
  | .error => 1
  | .warn => 2
  | .info => 3
  | .debug => 4
  | .trace => 5

/-- The name of a level in a log. -/
def name : Level → String
  | .error => "ERROR"
  | .warn => "WARN"
  | .info => "INFO"
  | .debug => "DEBUG"
  | .trace => "TRACE"

end Level

/-- Something to tell. -/
structure Event where
  level : Level
  target : String
  message : String
  fields : List (String × Nat) := []
deriving DecidableEq, Repr

/-- The line of an event. -/
def Event.line (e : Event) : String :=
  e.level.name ++ " " ++ e.target ++ ": " ++ e.message
    ++ String.join (e.fields.map fun f => " " ++ f.1 ++ "=" ++ Decimal.natText f.2)

end LSystem.Log
