import LSystem.Space.Vec3

/-!
# Rotations of space

A rotation is a quaternion `x i + y j + z k + w` of length one, as near as single
precision comes to it: products drift, so a turtle normalises after every turn. As with
vectors, the order of the operations fixes the last bit of every result; terms that are
zero are computed like the others, since zeros have signs and a NaN spreads.
-/

namespace LSystem.Space

/-- A rotation of space, as a quaternion. -/
structure Rotation where
  x : Float32
  y : Float32
  z : Float32
  w : Float32
deriving DecidableEq, Repr

namespace Rotation

/-- No rotation. -/
def identity : Rotation := ⟨0, 0, 0, 1⟩

/-- The rotation around an axis of length one by an angle in radians. -/
def around (axis : Vec3) (angle : Float32) : Rotation :=
  let half := angle * 0.5
  let s := half.sin
  ⟨axis.x * s, axis.y * s, axis.z * s, half.cos⟩

/-- The rotation `q` in the space that `p` has rotated. -/
def mul (p q : Rotation) : Rotation :=
  { x := (p.w * q.x + p.x * q.w) + (p.y * q.z - p.z * q.y)
    y := (p.w * q.y - p.x * q.z) + (p.y * q.w + p.z * q.x)
    z := (p.w * q.z + p.x * q.y) + (p.z * q.w - p.y * q.x)
    w := (p.w * q.w - p.x * q.x) + (-(p.y * q.y) - p.z * q.z) }

/-- The quaternion of length one in the same direction. -/
def normalize (q : Rotation) : Rotation :=
  let length := ((q.x * q.x + q.z * q.z) + (q.y * q.y + q.w * q.w)).sqrt
  ⟨q.x / length, q.y / length, q.z / length, q.w / length⟩

/-- A vector after the rotation. -/
def apply (q : Rotation) (v : Vec3) : Vec3 :=
  let b : Vec3 := ⟨q.x, q.y, q.z⟩
  ((v.scale (q.w * q.w - b.dot b)).add (b.scale (v.dot b * 2))).add ((b.cross v).scale (q.w * 2))

/-- The four coordinates. -/
def toList (q : Rotation) : List Float32 := [q.x, q.y, q.z, q.w]

end Rotation

end LSystem.Space
