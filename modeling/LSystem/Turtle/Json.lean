import LSystem.Json.Reader
import LSystem.Json.Value
import LSystem.Settings
import LSystem.Turtle.Frame
import LSystem.Turtle.Operation

/-!
# Turtles in JSON

How operations, settings and frames are written as JSON and read from it. An operation is
written as its name, or as an object that gives its factor; vectors are lists of their
coordinates.
-/

namespace LSystem

open Json Space

/-! ### Vectors and rotations -/

namespace Space

/-- The coordinates of a vector, as the places of a list. -/
def Vec3.fields : List (FieldSpec Vec3) :=
  [.mandatory "x" readSingle fun x v => { v with x },
    .mandatory "y" readSingle fun y v => { v with y },
    .mandatory "z" readSingle fun z v => { v with z }]

/-- Reads a vector. -/
def Vec3.read : Reader Vec3
  | .list items ending =>
    readPositions "a sequence of 3 f32 values" ending 0 Vec3.fields items .zero
  | t => .error (t.mismatch "a sequence of 3 f32 values")

/-- The value of a vector. -/
def Vec3.toJson (v : Vec3) : Value := .ofSingles v.toList

/-- The coordinates of a rotation, as the places of a list. -/
def Rotation.fields : List (FieldSpec Rotation) :=
  [.mandatory "x" readSingle fun x q => { q with x },
    .mandatory "y" readSingle fun y q => { q with y },
    .mandatory "z" readSingle fun z q => { q with z },
    .mandatory "w" readSingle fun w q => { q with w }]

/-- Reads a rotation. -/
def Rotation.read : Reader Rotation
  | .list items ending =>
    readPositions "a sequence of 4 f32 values" ending 0 Rotation.fields items .identity
  | t => .error (t.mismatch "a sequence of 4 f32 values")

/-- The value of a rotation. -/
def Rotation.toJson (q : Rotation) : Value := .ofSingles q.toList

end Space

namespace Turtle

/-! ### Operations -/

/-- The operations by name. -/
def Operation.alternatives : List (String × Alternative Operation) :=
  [("forward", .plain .forward), ("move", .plain .move),
    ("yaw", .carrying fun t => (readSingle t).map .yaw),
    ("pitch", .carrying fun t => (readSingle t).map .pitch),
    ("roll", .carrying fun t => (readSingle t).map .roll),
    ("turn_around", .plain .turnAround), ("scale_step", .plain .scaleStep),
    ("branch_start", .plain .branchStart), ("branch_end", .plain .branchEnd),
    ("ignore", .plain .ignore)]

/-- Reads an operation. -/
def Operation.read : Reader Operation := readAlternative alternatives

/-- The value of an operation. -/
def Operation.toJson : Operation → Value
  | .forward => .string "forward"
  | .move => .string "move"
  | .yaw s => .object [("yaw", .ofSingle s)]
  | .pitch s => .object [("pitch", .ofSingle s)]
  | .roll s => .object [("roll", .ofSingle s)]
  | .turnAround => .string "turn_around"
  | .scaleStep => .string "scale_step"
  | .branchStart => .string "branch_start"
  | .branchEnd => .string "branch_end"
  | .ignore => .string "ignore"

/-! ### Settings -/

/-- The settings as a record; every setting has a default. -/
def Settings.record : Record Settings where
  title := "struct TurtleConfig"
  strict := true
  blank := {}
  fields :=
    [.optional "step" readSingle fun step s => { s with step },
      .optional "angle" readSingle fun angle s => { s with angle },
      .optional "length_factor" readSingle fun lengthFactor s => { s with lengthFactor }]

/-- The value of settings. -/
def Settings.toJson (s : Settings) : Value :=
  .object [("step", .ofSingle s.step), ("angle", .ofSingle s.angle),
    ("length_factor", .ofSingle s.lengthFactor)]

/-! ### Frames -/

/-- Frames as records. -/
def Frame.record : Record Frame where
  title := "struct TurtleFrame"
  strict := false
  blank := .start 1
  fields :=
    [.mandatory "position" Vec3.read fun position f => { f with position },
      .mandatory "rotation" Rotation.read fun rotation f => { f with rotation },
      .mandatory "step" readSingle fun step f => { f with step }]

/-- The value of a frame. -/
def Frame.toJson (f : Frame) : Value :=
  .object [("position", f.position.toJson), ("rotation", f.rotation.toJson),
    ("step", .ofSingle f.step)]

end Turtle

end LSystem
