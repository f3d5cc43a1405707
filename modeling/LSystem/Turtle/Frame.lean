import LSystem.Space.Rotation

/-!
# Where a turtle stands

A frame is all that a turtle remembers at the start of a branch: its place, the way it
is turned, and the length of its next step. It looks along the second axis of its own
space, and the surface that it draws has the third axis as its normal.
-/

namespace LSystem.Turtle

open LSystem.Space

/-- The place, the orientation and the step of a turtle. -/
structure Frame where
  position : Vec3
  rotation : Rotation
  step : Float32
deriving DecidableEq, Repr

namespace Frame

/-- A turtle at the origin that has not turned yet. -/
def start (step : Float32) : Frame := ⟨.zero, .identity, step⟩

/-- The direction in which the turtle moves. -/
def heading (f : Frame) : Vec3 := f.rotation.apply .unitY

/-- The normal of the surface that the turtle draws. -/
def normal (f : Frame) : Vec3 := f.rotation.apply .unitZ

/-- The turtle a distance further on. -/
def advance (f : Frame) (distance : Float32) : Frame :=
  { f with position := f.position.add (f.heading.scale distance) }

/-- The turtle turned around an axis of its own space, by an angle in radians. -/
def turn (f : Frame) (axis : Vec3) (angle : Float32) : Frame :=
  { f with rotation := (f.rotation.mul (.around axis angle)).normalize }

/-- The turtle turned around the axis that points sideways. -/
def pitch (f : Frame) (angle : Float32) : Frame := f.turn .unitX angle

/-- The turtle turned around its heading. -/
def roll (f : Frame) (angle : Float32) : Frame := f.turn .unitY angle

/-- The turtle turned around its normal. -/
def yaw (f : Frame) (angle : Float32) : Frame := f.turn .unitZ angle

/-- A turtle that turns changes neither its place nor its step. -/
@[simp] theorem position_turn (f : Frame) (axis : Vec3) (angle : Float32) :
    (f.turn axis angle).position = f.position := rfl

@[simp] theorem step_turn (f : Frame) (axis : Vec3) (angle : Float32) :
    (f.turn axis angle).step = f.step := rfl

/-- A turtle that advances neither turns nor changes its step. -/
@[simp] theorem rotation_advance (f : Frame) (distance : Float32) :
    (f.advance distance).rotation = f.rotation := rfl

@[simp] theorem step_advance (f : Frame) (distance : Float32) :
    (f.advance distance).step = f.step := rfl

end Frame

end LSystem.Turtle
