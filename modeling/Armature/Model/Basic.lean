import Armature.Live.Basic
import Armature.Model.Roster
/-!
Models: concrete values for every attribute, with a record of those that the caller set.
-/

namespace Armature

namespace Model

structure BoneFlags where
  id : Bool := false
  name : Bool := false
  parent : Bool := false
  pivot : Bool := false
  rotation : Bool := false
  scale : Bool := false
  visibility : Bool := false
  deriving DecidableEq

structure CubeFlags where
  id : Bool := false
  name : Bool := false
  parent : Bool := false
  /-- Corners, a center, a size, or an anchor for the center. -/
  bounds : Bool := false
  /-- An origin, or an anchor for it. -/
  origin : Bool := false
  rotation : Bool := false
  inflate : Bool := false
  mirror : Bool := false
  visibility : Bool := false
  boxUv : Bool := false
  uvOffset : Bool := false
  deriving DecidableEq

structure Bone (K : Type) where
  id : String
  name : String
  parent : Option String
  pivot : Vec3 K
  pivotAnchor : Option String
  rotation : Vec3 K
  scale : Vec3 K
  visibility : Option Bool
  explicit : BoneFlags
  deriving DecidableEq

structure Cube (K : Type) where
  id : String
  name : String
  /-- The id of the bone that the cube hangs from. -/
  parent : String
  lower : Vec3 K
  upper : Vec3 K
  origin : Vec3 K
  originAnchor : Option String
  centerAnchor : Option String
  rotation : Vec3 K
  inflate : Option K
  mirror : Option Bool
  visibility : Option Bool
  boxUv : Option Bool
  uvOffset : Option (Vec2 K)
  explicit : CubeFlags
  deriving DecidableEq

variable {K : Type}

instance : Identified (Bone K) := ⟨Bone.id⟩

instance : Identified (Cube K) := ⟨Cube.id⟩

abbrev Bones (K : Type) := Roster (Bone K)

abbrev Cubes (K : Type) := Roster (Cube K)

def Bone.toLive (b : Bone K) : Live.Bone K :=
  { id := some b.id, name := b.name, parent := b.parent, pivot := b.pivot, rotation := b.rotation,
    scale := b.scale, visibility := b.visibility }

def Cube.toLive (c : Cube K) : Live.Cube K :=
  { id := some c.id, name := c.name, parent := some c.parent, lower := c.lower, upper := c.upper,
    origin := some c.origin, rotation := c.rotation, inflate := c.inflate, mirror := c.mirror,
    visibility := c.visibility, boxUv := c.boxUv, uvOffset := c.uvOffset }

variable [Scalar K]

def Bone.ofId (id : String) (parent : Option String) : Bone K :=
  ⟨id, id, parent, .zero, none, .zero, .one, none, {}⟩

/-- A cube named like its id, with its origin in the center, of which the caller set nothing. -/
def Cube.ofBox (id parent : String) (lower upper : Vec3 K) : Cube K :=
  ⟨id, id, parent, lower, upper, Vec3.center lower upper, none, none, .zero, none, none, none, none,
    none, {}⟩

def Cube.center (c : Cube K) : Vec3 K := Vec3.center c.lower c.upper

def Cube.extent (c : Cube K) : Vec3 K := Vec3.extent c.lower c.upper

end Model

inductive Kind
  | bone
  | cube
  deriving DecidableEq

def Kind.name : Kind → String
  | bone => "bone"
  | cube => "cube"

inductive Warning
  /-- A directive of a type that is not known was passed over. -/
  | unknownDirective (index : Nat) (type : String)
  /-- An entry took the place of an entry of the starter rig. -/
  | templateOverridden (kind : Kind) (index : Nat) (id : String)
  deriving DecidableEq

structure Model (K : Type) where
  bones : Model.Bones K
  cubes : Model.Cubes K
  warnings : List Warning := []

def Model.toLive {K : Type} (m : Model K) : Live K :=
  { bones := m.bones.toList.map Model.Bone.toLive, cubes := m.cubes.toList.map Model.Cube.toLive }

end Armature
