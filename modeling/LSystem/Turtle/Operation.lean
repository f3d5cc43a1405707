/-!
# What a turtle can be told to do

The operations of a turtle that walks through space, and the symbols that conventionally
stand for them. An operation that turns carries a factor for the angle of the settings,
so one operation serves for both directions.
-/

namespace LSystem.Turtle

/-- What a turtle can be told to do. -/
inductive Operation where
  /-- Takes a step and draws it. -/
  | forward
  /-- Takes a step without drawing; what is drawn next begins there. -/
  | move
  /-- Turns around the normal. -/
  | yaw (factor : Float32)
  /-- Turns around the axis that points sideways. -/
  | pitch (factor : Float32)
  /-- Turns around the heading. -/
  | roll (factor : Float32)
  /-- Turns back. -/
  | turnAround
  /-- Multiplies the length of a step by the factor of the settings. -/
  | scaleStep
  /-- Remembers where the turtle is; a branch begins. -/
  | branchStart
  /-- Goes back to the place remembered last; the branch ends. -/
  | branchEnd
  /-- Does nothing. -/
  | ignore
deriving DecidableEq, Repr, Inhabited

namespace Operation

/-- The conventional symbols, in the order in which they are numbered. -/
def standard : List (String × Operation) :=
  [("F", forward), ("f", move), ("+", yaw 1), ("-", yaw (-1)), ("&", pitch 1), ("^", pitch (-1)),
    ("\\", roll 1), ("/", roll (-1)), ("|", turnAround), ("\"", scaleStep),
    ("[", branchStart), ("]", branchEnd)]

end Operation

end LSystem.Turtle
