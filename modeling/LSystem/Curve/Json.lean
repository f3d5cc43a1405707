import LSystem.Curve.Buffer
import LSystem.Turtle.Json

/-!
# Traces and buffers in JSON

How points, events, traces and curve buffers are written as JSON and read from it. A break
is written as its name, a point as an object that holds it.
-/

namespace LSystem.Curve

open Json Space

/-- Points as records. -/
def Point.record : Record Point where
  title := "struct CurvePoint"
  strict := false
  blank := ⟨.zero, .zero⟩
  fields :=
    [.mandatory "position" Vec3.read fun position p => { p with position },
      .mandatory "normal" Vec3.read fun normal p => { p with normal }]

/-- The value of a point. -/
def Point.toJson (p : Point) : Value :=
  .object [("position", p.position.toJson), ("normal", p.normal.toJson)]

/-- Reads an event. -/
def Event.read : Reader Event :=
  readAlternative
    [("Point", .carrying fun t => (Point.record.read t).map .point), ("Break", .plain .break)]

/-- The value of an event. -/
def Event.toJson : Event → Value
  | .point p => .object [("Point", p.toJson)]
  | .break => .string "Break"

/-- Traces as records. -/
def Trace.record : Record Trace where
  title := "struct Trace"
  strict := false
  blank := .empty
  fields := [.mandatory "events" (readList Event.read) fun events _ => .ofList events]

/-- The value of a trace. -/
def Trace.toJson (t : Trace) : Value := .object [("events", .list (t.toList.map Event.toJson))]

/-- Buffers as records. -/
def Buffer.record : Record Buffer where
  title := "struct CurveBuffer"
  strict := false
  blank := .empty 0
  fields :=
    [.mandatory "vertices_per_curve" (readList (readUInt64 "usize")) fun counts b =>
        { b with vertexCounts := counts.toArray },
      .mandatory "positions" (readList readSingle) fun xs b => { b with positions := xs.toArray },
      .mandatory "normals" (readList readSingle) fun xs b => { b with normals := xs.toArray },
      .mandatory "width" readSingle fun width b => { b with width }]

/-- The value of a buffer. -/
def Buffer.toJson (b : Buffer) : Value :=
  .object
    [("vertices_per_curve", .list (b.vertexCounts.toList.map fun n => .ofNat n.toNat)),
      ("positions", .ofSingles b.positions.toList), ("normals", .ofSingles b.normals.toList),
      ("width", .ofSingle b.width)]

end LSystem.Curve
