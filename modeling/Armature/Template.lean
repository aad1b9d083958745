import Armature.Geometry.Vec
/-!
Starter rigs. A spec names one, and its entries are merged over those of the rig.
-/

namespace Armature

/-- The id of the bone that hierarchies are rooted in. -/
def rootId : String := "root"

inductive Template
  | empty
  | biped
  | quadruped
  | blockEntity
  deriving DecidableEq

namespace Template

structure Bone (K : Type) where
  id : String
  parent : Option String
  pivot : Vec3 K

structure Cube (K : Type) where
  id : String
  parent : String
  lower : Vec3 K
  upper : Vec3 K

def all : List Template := [empty, biped, quadruped, blockEntity]

def name : Template → String
  | empty => "empty"
  | biped => "biped"
  | quadruped => "quadruped"
  | blockEntity => "block_entity"

def ofName? (name : String) : Option Template := all.find? (·.name == name)

variable {K : Type} [Scalar K]

def root : Bone K := ⟨rootId, none, .zero⟩

def point (x y z : Int) : Vec3 K :=
  let unit (n : Int) : K := if n < 0 then -Scalar.ofNat n.natAbs else Scalar.ofNat n.natAbs
  ⟨unit x, unit y, unit z⟩

def bones : Template → List (Bone K)
  | empty => []
  | biped =>
    let hip : K := Scalar.ofDecimal 19 1
    [root,
      ⟨"body", some rootId, point 0 24 0⟩,
      ⟨"head", some "body", point 0 24 0⟩,
      ⟨"right_arm", some "body", point (-5) 22 0⟩,
      ⟨"left_arm", some "body", point 5 22 0⟩,
      ⟨"right_leg", some rootId, (point 0 12 0).set .x (-hip)⟩,
      ⟨"left_leg", some rootId, (point 0 12 0).set .x hip⟩]
  | quadruped =>
    [root,
      ⟨"body", some rootId, point 0 13 2⟩,
      ⟨"head", some "body", point 0 12 (-6)⟩,
      ⟨"leg_back_right", some rootId, point (-3) 12 7⟩,
      ⟨"leg_back_left", some rootId, point 3 12 7⟩,
      ⟨"leg_front_right", some rootId, point (-3) 12 (-5)⟩,
      ⟨"leg_front_left", some rootId, point 3 12 (-5)⟩]
  | blockEntity => [root]

def cubes : Template → List (Cube K)
  | blockEntity => [⟨"block", rootId, point 0 0 0, point 16 16 16⟩]
  | _ => []

end Template

end Armature
