import Armature.Geometry.Vec
/-!
Where a position may come to rest: on the points of a grid, and inside a box.
-/

namespace Armature

structure Bounds (K : Type) where
  min : Vec3 K
  max : Vec3 K
  deriving BEq, DecidableEq

variable {K : Type} [Scalar K]

namespace Scalar

/-- The nearest multiple of `grid`; a grid that is not positive moves nothing. A result of zero
carries no sign. -/
def snap (a grid : K) : K :=
  if le grid zero then a
  else
    let snapped := round (a / grid) * grid
    if eq snapped zero then zero else snapped

def clamp (a low high : K) : K :=
  let raised := if lt a low then low else a
  if lt high raised then high else raised

end Scalar

namespace Bounds

def isValid (b : Bounds K) : Bool := Vec3.forall₂ Scalar.le b.min b.max

end Bounds

namespace Vec3

def snap (a : Vec3 K) (grid : K) : Vec3 K := a.map (Scalar.snap · grid)

def clamp (a : Vec3 K) (b : Bounds K) : Vec3 K :=
  ⟨Scalar.clamp a.x b.min.x b.max.x, Scalar.clamp a.y b.min.y b.max.y,
    Scalar.clamp a.z b.min.z b.max.z⟩

/-- The nearest point of a box; there is none when the box holds no point. -/
def clamp? (a : Vec3 K) (b : Bounds K) : Option (Vec3 K) :=
  if b.isValid then some (a.clamp b) else none

end Vec3

end Armature
