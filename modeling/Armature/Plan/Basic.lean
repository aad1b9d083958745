import Armature.Model.Basic
/-!
Plans: the operations, in order, that turn a live model into a desired one.
-/

namespace Armature

inductive Mode
  /-- Everything is created; nothing of it may be there. -/
  | create
  /-- What is missing is created, and what is there gets the attributes that the caller set. -/
  | merge
  /-- As in `merge`, but with all attributes; what is not desired may be deleted. -/
  | replace
  /-- What is there gets the attributes that the caller set; nothing may be missing. -/
  | patch
  deriving DecidableEq

namespace Mode

def all : List Mode := [create, merge, replace, patch]

def name : Mode → String
  | create => "create"
  | merge => "merge"
  | replace => "replace"
  | patch => "patch"

def ofName? (name : String) : Option Mode := all.find? (·.name == name)

def unknownMessage (name : String) : String :=
  s!"unknown mode '{name}', expected one of: create, merge, replace, patch"

/-- Whether all attributes are compared, and not only those that the caller set. -/
def comparesAll (mode : Mode) : Bool := mode = replace

end Mode

namespace Plan

structure BoneChanges (K : Type) where
  id : Option String := none
  name : Option String := none
  parent : Option String := none
  pivot : Option (Vec3 K) := none
  rotation : Option (Vec3 K) := none
  scale : Option (Vec3 K) := none
  visibility : Option Bool := none
  deriving BEq, DecidableEq

structure CubeChanges (K : Type) where
  id : Option String := none
  name : Option String := none
  parent : Option String := none
  lower : Option (Vec3 K) := none
  upper : Option (Vec3 K) := none
  origin : Option (Vec3 K) := none
  rotation : Option (Vec3 K) := none
  inflate : Option K := none
  mirror : Option Bool := none
  visibility : Option Bool := none
  boxUv : Option Bool := none
  uvOffset : Option (Vec2 K) := none
  deriving BEq, DecidableEq

variable {K : Type}

def BoneChanges.isEmpty (c : BoneChanges K) : Bool :=
  c.id.isNone && c.name.isNone && c.parent.isNone && c.pivot.isNone && c.rotation.isNone
    && c.scale.isNone && c.visibility.isNone

def CubeChanges.isEmpty (c : CubeChanges K) : Bool :=
  c.id.isNone && c.name.isNone && c.parent.isNone && c.lower.isNone && c.upper.isNone
    && c.origin.isNone && c.rotation.isNone && c.inflate.isNone && c.mirror.isNone
    && c.visibility.isNone && c.boxUv.isNone && c.uvOffset.isNone

inductive OpKind
  | createBone
  | updateBone
  | deleteBone
  | createCube
  | updateCube
  | deleteCube
  deriving DecidableEq

namespace OpKind

def all : List OpKind := [createBone, updateBone, deleteBone, createCube, updateCube, deleteCube]

def name : OpKind → String
  | createBone => "create_bone"
  | updateBone => "update_bone"
  | deleteBone => "delete_bone"
  | createCube => "create_cube"
  | updateCube => "update_cube"
  | deleteCube => "delete_cube"

def ofName? (name : String) : Option OpKind := all.find? (·.name == name)

/-- The place of the kind in the order of a plan; bones are created and updated together. -/
def priority : OpKind → Nat
  | createBone => 10
  | updateBone => 20
  | createCube => 30
  | updateCube => 40
  | deleteCube => 50
  | deleteBone => 60

end OpKind

/-- One operation. An update or a deletion names a live entity as it is at the time. -/
inductive Op (K : Type)
  | createBone (bone : Live.Bone K)
  /-- `toTop` says that the bone loses its parent. -/
  | updateBone (id : Option String) (name : String) (changes : BoneChanges K) (toTop : Bool)
  | deleteBone (id : Option String) (name : String)
  | createCube (cube : Live.Cube K)
  /-- `toRoot` says that the cube moves to the root bone. -/
  | updateCube (id : Option String) (name : String) (changes : CubeChanges K) (toRoot : Bool)
  | deleteCube (id : Option String) (name : String)
  deriving BEq, DecidableEq

namespace Op

def kind : Op K → OpKind
  | createBone _ => .createBone
  | updateBone .. => .updateBone
  | deleteBone .. => .deleteBone
  | createCube _ => .createCube
  | updateCube .. => .updateCube
  | deleteCube .. => .deleteCube

def targetName : Op K → String
  | createBone bone => bone.name
  | createCube cube => cube.name
  | updateBone _ name _ _ | deleteBone _ name | updateCube _ name _ _ | deleteCube _ name => name

def isIdle : Op K → Bool
  | updateBone _ _ changes _ => changes.isEmpty
  | updateCube _ _ changes _ => changes.isEmpty
  | _ => false

end Op

structure Summary where
  createBone : Nat := 0
  updateBone : Nat := 0
  deleteBone : Nat := 0
  createCube : Nat := 0
  updateCube : Nat := 0
  deleteCube : Nat := 0
  bones : Nat := 0
  cubes : Nat := 0
  total : Nat := 0
  deriving DecidableEq

end Plan

structure Plan (K : Type) where
  ops : List (Plan.Op K)
  summary : Plan.Summary
  /-- The token of the snapshot that the plan was made for. -/
  revision : Option String
  deriving BEq, DecidableEq

def Plan.Summary.ofOps {K : Type} (ops : List (Op K)) (model : Model K) : Summary where
  createBone := ops.countP (·.kind = .createBone)
  updateBone := ops.countP (·.kind = .updateBone)
  deleteBone := ops.countP (·.kind = .deleteBone)
  createCube := ops.countP (·.kind = .createCube)
  updateCube := ops.countP (·.kind = .updateCube)
  deleteCube := ops.countP (·.kind = .deleteCube)
  bones := model.bones.size
  cubes := model.cubes.size
  total := ops.length

def Plan.isEmpty {K : Type} (p : Plan K) : Bool := p.ops.isEmpty

end Armature
