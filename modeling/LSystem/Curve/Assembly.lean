import LSystem.Curve.Buffer
import LSystem.Settings

/-!
# Assembling curves

The strands of a trace become the curves of a buffer. The events are taken in one pass,
each point going straight into the buffer; where a strand ends, its length is added to the
vertex counts. A strand of one point makes no curve, and its point is taken out again; an
empty strand leaves nothing to take out. The end of the trace ends the last strand. The
buffer is checked before it is handed out.
-/

namespace LSystem.Curve

/-- A buffer in the making, and the number of points since the last break. -/
structure Assembly where
  buffer : Buffer
  length : UInt64
deriving DecidableEq, Repr

namespace Assembly

/-- Puts the coordinates of a vector behind an array. -/
def pushVec (xs : Array Float32) (v : Space.Vec3) : Array Float32 :=
  ((xs.push v.x).push v.y).push v.z

/-- Takes the last three numbers off an array. -/
def dropVec (xs : Array Float32) : Array Float32 := xs.pop.pop.pop

/-- Adds a point to a buffer. -/
def addPoint (b : Buffer) (p : Point) : Buffer :=
  { b with positions := pushVec b.positions p.position, normals := pushVec b.normals p.normal }

/-- Takes the last point out of a buffer. -/
def dropPoint (b : Buffer) : Buffer :=
  { b with positions := dropVec b.positions, normals := dropVec b.normals }

/-- Makes a curve of the last points of a buffer. -/
def addCurve (b : Buffer) (length : UInt64) : Buffer :=
  { b with vertexCounts := b.vertexCounts.push length }

/-- Ends a strand. -/
def endStrand (a : Assembly) : Assembly :=
  if a.length = 0 then a
  else if a.length = 1 then ⟨dropPoint a.buffer, 0⟩
  else ⟨addCurve a.buffer a.length, 0⟩

/-- Takes one event. -/
def add (a : Assembly) : Event → Assembly
  | .point p => ⟨addPoint a.buffer p, a.length + 1⟩
  | .break => a.endStrand

end Assembly

/-- **The curves of a trace.** -/
def assemble (settings : Settings) (t : Trace) : Except Error Buffer :=
  let b := (t.toList.foldl Assembly.add ⟨.empty settings.width, 0⟩).endStrand.buffer
  b.validate.map fun _ => b

/-- The number of strands that are left out because they have one point only. -/
def discarded (t : Trace) : Nat := (t.strands.filter fun strand => strand.length = 1).length

end LSystem.Curve
