import Armature.Plan.Basic
import Armature.Template
/-!
The differences between a desired entity and the live one it stands for. An attribute is compared
when the caller set it, or always when `all` is given.
-/

namespace Armature.Plan

variable {K : Type}

/-- Whether a live parent reference names the desired parent, by its id or by its name. -/
def parentMatches (bones : Model.Bones K) (desired : String) : (live : Option String) → Bool
  | none => false
  | some parent => parent == desired || (bones.get? desired).any (·.name == parent)

/-- A new id. A live entity without one goes on without one. -/
def idChange (compare : Bool) (desired : String) (live : Option String) : Option String :=
  live.bind fun id => if compare && id != desired then some desired else none

def nameChange (compare : Bool) (desired live : String) : Option String :=
  if compare && desired != live then some desired else none

def switchChange (compare : Bool) (desired : Option Bool) (live : Bool) : Option Bool :=
  desired.filter fun value => compare && value != live

variable [Scalar K]

def vectorChange (compare : Bool) (desired live : Vec3 K) : Option (Vec3 K) :=
  if compare && !desired.near live then some desired else none

/-- The changes to a bone, and whether it loses its parent. -/
def diffBone (bones : Model.Bones K) (all : Bool) (desired : Model.Bone K) (live : Live.Bone K) :
    BoneChanges K × Bool :=
  let set := desired.explicit
  let compareParent := all || set.parent
  let changes : BoneChanges K :=
    { id := idChange (all || set.id) desired.id live.id
      name := nameChange (all || set.name) desired.name live.name
      parent := desired.parent.filter fun parent =>
        compareParent && !parentMatches bones parent live.parent
      pivot := vectorChange (all || set.pivot) desired.pivot live.pivot
      rotation := vectorChange (all || set.rotation) desired.rotation live.rotation
      scale := vectorChange (all || set.scale) desired.scale live.scale
      visibility :=
        switchChange (all || set.visibility) desired.visibility (live.visibility.getD true) }
  (changes, compareParent && desired.parent.isNone && live.parent.isSome)

/-- The changes to a cube, and whether it moves to the root bone. The two corners change together,
and a box that the caller set takes the origin along. -/
def diffCube (bones : Model.Bones K) (all : Bool) (desired : Model.Cube K) (live : Live.Cube K) :
    CubeChanges K × Bool :=
  let set := desired.explicit
  let boxMoves := (all || set.bounds) &&
    !(desired.lower.near live.lower && desired.upper.near live.upper)
  let parentMoves := (all || set.parent) && !parentMatches bones desired.parent live.parent
  let changes : CubeChanges K :=
    { id := idChange (all || set.id) desired.id live.id
      name := nameChange (all || set.name) desired.name live.name
      parent := if parentMoves then some desired.parent else none
      lower := if boxMoves then some desired.lower else none
      upper := if boxMoves then some desired.upper else none
      origin := vectorChange (all || set.origin || set.bounds) desired.origin live.effectiveOrigin
      rotation := vectorChange (all || set.rotation) desired.rotation live.rotation
      inflate := desired.inflate.filter fun value =>
        (all || set.inflate) && !Scalar.near value (live.inflate.getD Scalar.zero)
      mirror := switchChange (all || set.mirror) desired.mirror (live.mirror.getD false)
      visibility :=
        switchChange (all || set.visibility) desired.visibility (live.visibility.getD true)
      boxUv := switchChange (all || set.boxUv) desired.boxUv (live.boxUv.getD false)
      uvOffset := desired.uvOffset.filter fun value =>
        (all || set.uvOffset) && !value.near (live.uvOffset.getD .zero) }
  (changes, parentMoves && desired.parent == rootId)

end Armature.Plan
