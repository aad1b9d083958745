import Armature.Spec.Basic
/-!
A spec that shows most of what a spec can hold.
-/

namespace Armature.Spec

variable {K : Type} [Scalar K]

def critterBone (id parent : String) (pivot : Vec3 K) : Bone K :=
  { id := some id, parent := some parent, pivot := some pivot }

def critterCube (id parent : String) (lower upper : Vec3 K) : Cube K :=
  { id := some id, parent := some parent, lower := some lower, upper := some upper }

def critter : Spec K where
  template := .biped
  bones :=
    [critterBone "tail" "body" (Template.point 0 12 2),
      critterBone "tail_tip" "tail" (Template.point 0 10 8)]
  cubes :=
    [critterCube "hat" "head" (Template.point (-4) 32 (-4)) (Template.point 4 34 4),
      critterCube "ear" "head" (Template.point 2 32 0) (Template.point 4 36 1),
      critterCube "tail_box" "tail" (Template.point (-1) 10 2) (Template.point 1 12 8)]
  instances := [.mirror { source := "ear", axis := .x, offset := Scalar.zero }]

end Armature.Spec
