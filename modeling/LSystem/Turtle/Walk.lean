import LSystem.Curve.Trace
import LSystem.Error
import LSystem.Turtle.Operation

/-!
# How a turtle walks

A turtle carries out operations one after the other and leaves a trace. Besides its frame
it keeps the frames of the open branches and, for the strand that it is drawing, a
possible *anchor*: the point where the strand begins. An anchor is drawn only once the
turtle really moves, so a branch without a forward step leaves no point.

The first strand, the *root*, has no anchor. Its beginning is put in front of the trace
when the first branch starts, provided that something has been drawn by then; a root that
is not branched off begins with the first point that the turtle reaches.

A step that is not positive is no step at all: the operation does nothing. A NaN counts
as a step, since it is not at most zero.
-/

namespace LSystem.Turtle

open Curve

/-- The state of a turtle on its way. -/
structure State where
  frame : Frame
  /-- The frames of the open branches, the innermost one first. -/
  saved : List Frame
  trace : Trace
  /-- Whether no break has been drawn yet. -/
  onRoot : Bool
  /-- Whether the strand has points. -/
  strandOpen : Bool
  /-- The beginning of a strand that has no points yet. -/
  anchor : Option Point
deriving DecidableEq, Repr

namespace State

/-- A turtle before its first operation. -/
def start (settings : Settings) : State where
  frame := .start settings.step
  saved := []
  trace := .empty
  onRoot := true
  strandOpen := false
  anchor := none

/-- Whether a step leads anywhere. -/
def canStep (s : State) : Bool := !(s.frame.step ≤ 0)

/-- Draws the anchor, if there is one. -/
def drawAnchor (s : State) : State :=
  match s.anchor with
  | some p => { s with trace := s.trace.push (.point p), anchor := none }
  | none => s

/-- Draws the point under the turtle. -/
def drawPoint (s : State) : State :=
  { s with trace := s.trace.push (.point (.at s.frame)), strandOpen := true }

/-- The turtle one step on. -/
def advance (s : State) : State := { s with frame := s.frame.advance s.frame.step }

/-- Ends the strand; the next one begins under the turtle. -/
def breakStrand (s : State) : State :=
  { s with
    trace := s.trace.push .break
    onRoot := false
    strandOpen := false
    anchor := some (.at s.frame) }

/-- Puts the beginning of the root in front of the trace, if the root has points. -/
def anchorRoot (origin : Point) (s : State) : State :=
  if s.onRoot && s.strandOpen then { s with trace := s.trace.prepend (.point origin) } else s

/-- Remembers the frame of the turtle. -/
def save (s : State) : State := { s with saved := s.frame :: s.saved }

/-- The turtle with another frame. -/
def setFrame (s : State) (f : Frame) : State := { s with frame := f }

/-- Turns by pi around the normal. -/
def halfTurn : Float32 := 3.14159274

/-- **One operation.** There is no next state when a branch ends that has not begun. -/
def step (settings : Settings) (s : State) : Operation → Option State
  | .forward => some (if s.canStep then s.drawAnchor.advance.drawPoint else s)
  | .move => some (if s.canStep then s.advance.breakStrand else s)
  | .yaw factor => some (s.setFrame (s.frame.yaw (settings.radians * factor)))
  | .pitch factor => some (s.setFrame (s.frame.pitch (settings.radians * factor)))
  | .roll factor => some (s.setFrame (s.frame.roll (settings.radians * factor)))
  | .turnAround => some (s.setFrame (s.frame.yaw halfTurn))
  | .scaleStep => some (s.setFrame { s.frame with step := s.frame.step * settings.lengthFactor })
  | .branchStart =>
    some ((s.anchorRoot (.at (.start settings.step))).breakStrand.save)
  | .branchEnd =>
    -- What is drawn next begins where the branch began.
    match s.saved with
    | f :: saved => some ({ s with frame := f, saved }.breakStrand)
    | [] => none
  | .ignore => some s

end State

/-- Carries out operations, the first of which stands at `position`. -/
def walkFrom (settings : Settings) (position : Nat) (s : State) :
    List Operation → Except Error State
  | [] => .ok s
  | op :: ops =>
    match s.step settings op with
    | some s => walkFrom settings (position + 1) s ops
    | none => .error (.unbalanced position 0)

/-- **The trace of a turtle** that carries out operations. All branches have to be closed. -/
def walk (settings : Settings) (ops : List Operation) : Except Error Trace := do
  let s ← walkFrom settings 0 (.start settings) ops
  if s.saved.isEmpty then return s.trace
  else throw (.unbalanced ops.length s.saved.length)

end LSystem.Turtle
