import Armature.Geometry.Vec
/-!
The rigid motions that copies of a box are made with: rotation about a line along an axis, and
reflection in a plane across an axis.
-/

namespace Armature.Vec3

variable {K : Type} [Scalar K]

/-- A vector turned about an axis through the origin, by the right-hand rule. -/
def turn (a : Vec3 K) (axis : Axis) (sin cos : K) : Vec3 K :=
  match axis with
  | .x => ⟨a.x, a.y * cos - a.z * sin, a.y * sin + a.z * cos⟩
  | .y => ⟨a.x * cos + a.z * sin, a.y, -a.x * sin + a.z * cos⟩
  | .z => ⟨a.x * cos - a.y * sin, a.x * sin + a.y * cos, a.z⟩

/-- A point rotated about the line along `axis` through `pivot`. -/
def rotate (point : Vec3 K) (axis : Axis) (pivot : Vec3 K) (degrees : K) : Vec3 K :=
  (point - pivot).turn axis (Scalar.sin degrees) (Scalar.cos degrees) + pivot

end Vec3

/-- The reflection of a coordinate in the plane at `offset`. -/
def Scalar.reflect {K : Type} [Scalar K] (a offset : K) : K := Scalar.two * offset - a

namespace Vec3

variable {K : Type} [Scalar K]

def reflect (a : Vec3 K) (axis : Axis) (offset : K) : Vec3 K :=
  a.set axis (Scalar.reflect (a.get axis) offset)

/-- The Euler angles of a reflected body: the angle about the axis of reflection stays, the other
two change sign, a zero staying as it is. -/
def reflectAngles (angles : Vec3 K) (axis : Axis) : Vec3 K :=
  let flip (other : Axis) : K :=
    let angle := angles.get other
    if other = axis || Scalar.eq angle Scalar.zero then angle else -angle
  ⟨flip .x, flip .y, flip .z⟩

end Armature.Vec3
