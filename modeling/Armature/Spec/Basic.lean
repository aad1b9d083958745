import Armature.Geometry.Bounds
import Armature.Json.Value
import Armature.Template
/-!
The document that describes a desired model. Every attribute that an entry may leave out is optional:
`none` says that the caller did not set it.
-/

namespace Armature

inductive IdPolicy
  | explicit
  | stablePath
  | hash
  deriving DecidableEq

namespace IdPolicy

def all : List IdPolicy := [explicit, stablePath, hash]

def name : IdPolicy → String
  | explicit => "explicit"
  | stablePath => "stable_path"
  | hash => "hash"

def ofName? (name : String) : Option IdPolicy := all.find? (·.name == name)

end IdPolicy

namespace Spec

structure Policy (K : Type) where
  idPolicy : IdPolicy := .stablePath
  defaultParent : Option String := none
  /-- Whether a root bone is added when there is none, and is the default parent. -/
  enforceRoot : Bool := true
  /-- The grid that final positions are moved to. -/
  snapGrid : Option K := none
  /-- The box that final positions are moved into. -/
  bounds : Option (Bounds K) := none
  deriving BEq

structure Bone (K : Type) where
  id : Option String := none
  name : Option String := none
  parent : Option String := none
  pivot : Option (Vec3 K) := none
  pivotAnchor : Option String := none
  rotation : Option (Vec3 K) := none
  scale : Option (Vec3 K) := none
  visibility : Option Bool := none
  deriving BEq

/-- A desired cube. Its box is given by two corners, or else by its center and size. -/
structure Cube (K : Type) where
  id : Option String := none
  name : Option String := none
  parent : Option String := none
  lower : Option (Vec3 K) := none
  upper : Option (Vec3 K) := none
  center : Option (Vec3 K) := none
  size : Option (Vec3 K) := none
  origin : Option (Vec3 K) := none
  originAnchor : Option String := none
  centerAnchor : Option String := none
  rotation : Option (Vec3 K) := none
  inflate : Option K := none
  mirror : Option Bool := none
  visibility : Option Bool := none
  boxUv : Option Bool := none
  uvOffset : Option (Vec2 K) := none
  deriving BEq

inductive Target
  | bone (id : String)
  | cube (id : String)
  deriving DecidableEq

structure Anchor (K : Type) where
  id : String
  target : Target
  offset : Option (Vec3 K) := none
  deriving BEq

/-- One copy of a cube, reflected in the plane at `offset` across `axis`. -/
structure Mirror (K : Type) where
  source : String
  axis : Axis
  offset : K
  newId : Option String := none
  newName : Option String := none
  deriving BEq

structure Repetition (K : Type) where
  source : String
  count : Nat
  delta : Vec3 K
  idStem : Option String := none
  deriving BEq

structure Radial (K : Type) where
  source : String
  count : Nat
  axis : Axis
  center : Vec3 K
  radius : Option K := none
  /-- In degrees. -/
  startAngle : Option K := none
  idStem : Option String := none
  deriving BEq

/-- An order to make copies of a cube. One of an unknown type is kept as it was written. -/
inductive Directive (K : Type)
  | mirror (directive : Mirror K)
  | repetition (directive : Repetition K)
  | radial (directive : Radial K)
  | unknown (type : String) (value : Json)
  deriving BEq

end Spec

structure Spec (K : Type) where
  template : Template := .empty
  bones : List (Spec.Bone K) := []
  cubes : List (Spec.Cube K) := []
  anchors : List (Spec.Anchor K) := []
  instances : List (Spec.Directive K) := []
  policy : Spec.Policy K := {}
  deriving BEq

namespace Spec

def referencesAnchors {K : Type} (spec : Spec K) : Bool :=
  spec.bones.any (·.pivotAnchor.isSome) ||
    spec.cubes.any fun cube => cube.originAnchor.isSome || cube.centerAnchor.isSome

end Spec

end Armature
