/-!
# Vectors of space

Triples of single-precision numbers. Every operation rounds once, and the order of the
operations is the one written here, since the last bit of a result depends on it.
-/

namespace LSystem.Space

/-- A vector of space. -/
structure Vec3 where
  x : Float32
  y : Float32
  z : Float32
deriving DecidableEq, Repr

namespace Vec3

/-- The origin. -/
def zero : Vec3 := ⟨0, 0, 0⟩

/-- The unit vectors of the axes. -/
def unitX : Vec3 := ⟨1, 0, 0⟩
@[inherit_doc unitX] def unitY : Vec3 := ⟨0, 1, 0⟩
@[inherit_doc unitX] def unitZ : Vec3 := ⟨0, 0, 1⟩

/-- The sum of two vectors. -/
def add (v w : Vec3) : Vec3 := ⟨v.x + w.x, v.y + w.y, v.z + w.z⟩

/-- A vector made longer. -/
def scale (v : Vec3) (s : Float32) : Vec3 := ⟨v.x * s, v.y * s, v.z * s⟩

/-- The scalar product. -/
def dot (v w : Vec3) : Float32 := v.x * w.x + v.y * w.y + v.z * w.z

/-- The vector product. -/
def cross (v w : Vec3) : Vec3 :=
  ⟨v.y * w.z - v.z * w.y, v.z * w.x - v.x * w.z, v.x * w.y - v.y * w.x⟩

/-- The three coordinates. -/
def toList (v : Vec3) : List Float32 := [v.x, v.y, v.z]

end Vec3

end LSystem.Space
