import Armature.Geometry.Vec
/-!
The state of a live model: what is there before a plan is carried out, and the form in which a plan
creates.
-/

namespace Armature

namespace Live

structure Bone (K : Type) where
  id : Option String
  name : String
  parent : Option String
  pivot : Vec3 K
  rotation : Vec3 K
  scale : Vec3 K
  visibility : Option Bool
  deriving BEq, DecidableEq

structure Cube (K : Type) where
  id : Option String
  name : String
  /-- The bone that the cube hangs from, by id or by name. -/
  parent : Option String
  lower : Vec3 K
  upper : Vec3 K
  /-- None for the center of the box. -/
  origin : Option (Vec3 K)
  rotation : Vec3 K
  inflate : Option K
  mirror : Option Bool
  visibility : Option Bool
  boxUv : Option Bool
  uvOffset : Option (Vec2 K)
  deriving BEq, DecidableEq

variable {K : Type} [Scalar K]

def Bone.named (name : String) : Bone K := ⟨none, name, none, .zero, .zero, .one, none⟩

def Cube.named (name : String) : Cube K :=
  ⟨none, name, none, .zero, .zero, none, .zero, none, none, none, none, none⟩

/-- The origin, by default the center of the box. -/
def Cube.effectiveOrigin (c : Cube K) : Vec3 K := c.origin.getD (Vec3.center c.lower c.upper)

end Live

structure Live (K : Type) where
  bones : List (Live.Bone K) := []
  cubes : List (Live.Cube K) := []
  /-- A token of the snapshot, which plans carry along. -/
  revision : Option String := none
  deriving BEq, DecidableEq

end Armature
