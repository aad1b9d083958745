import Armature.Model.Hierarchy
import Armature.Plan.Diff
import Armature.Plan.Match
/-!
The plan for a model: the operations on bones from the top of the hierarchy down, those on cubes, and
the deletions, of bones from the bottom up.
-/

namespace Armature.Plan

variable {K : Type}

/-- The position of the live bone that a parent reference names: of the last one with it as its id,
or else of the first one with it as its name. -/
def resolve? (live : List (Live.Bone K)) (reference : String) : Option Nat :=
  ((live.reverse.findIdx? (·.id == some reference)).map fun index => live.length - 1 - index) <|>
    live.findIdx? (·.name == reference)

def links (live : List (Live.Bone K)) : Array (Option Nat) :=
  (live.map fun bone => bone.parent.bind (resolve? live)).toArray

/-- The number of bones passed on the way up from a bone, counted up to a limit. -/
def heightUpTo (links : Array (Option Nat)) : (limit : Nat) → (parent : Option Nat) → Nat
  | 0, _ => 0
  | _, none => 0
  | limit + 1, some index => heightUpTo links limit (links[index]?).join + 1

/-- The depth of a live bone. The limit is more than the length of any way up that ends. -/
def depth (links : Array (Option Nat)) (index : Nat) : Nat :=
  heightUpTo links (links.size + 1) (links[index]?).join

variable [Scalar K]

def boneOp? (bones : Model.Bones K) (all : Bool) :
    Model.Bone K × Option (Slot (Live.Bone K)) → Option (Op K)
  | (bone, none) => some (.createBone bone.toLive)
  | (bone, some slot) =>
    let (changes, toTop) := diffBone bones all bone slot.entity
    if changes.isEmpty && !toTop then none
    else some (.updateBone slot.entity.id slot.entity.name changes toTop)

def cubeOp? (bones : Model.Bones K) (all : Bool) :
    Model.Cube K × Option (Slot (Live.Cube K)) → Option (Op K)
  | (cube, none) => some (.createCube cube.toLive)
  | (cube, some slot) =>
    let (changes, toRoot) := diffCube bones all cube slot.entity
    if changes.isEmpty then none
    else some (.updateCube slot.entity.id slot.entity.name changes toRoot)

def boneOps (bones : Model.Bones K) (all : Bool) (m : Matching (Model.Bone K) (Live.Bone K)) :
    List (Op K) :=
  (Model.topDown bones).filterMap fun id =>
    (m.pairs.find? fun pair => pair.1.id == id).bind (boneOp? bones all)

def cubeOps (bones : Model.Bones K) (all : Bool) (m : Matching (Model.Cube K) (Live.Cube K)) :
    List (Op K) :=
  let ops := m.pairs.filterMap (cubeOp? bones all)
  ops.filter (·.kind = .createCube) ++ ops.filter (·.kind = .updateCube)

def boneDeletions (live : List (Live.Bone K)) (orphans : List (Slot (Live.Bone K))) : List (Op K) :=
  let links := links live
  let keyed := orphans.map fun slot => (depth links slot.index, slot.entity)
  (keyed.mergeSort fun a b => b.1 ≤ a.1).map fun (_, bone) => .deleteBone bone.id bone.name

/-- Makes the plan that turns a live model into a desired one. Entities that are left over are
deleted in `replace` mode, if asked for. -/
def ofModel (mode : Mode) (deleteOrphans : Bool) (model : Model K) (live : Live K) :
    Except (Fault K) (Plan K) := do
  let all := mode.comparesAll
  let bones := matchUp (slots live.bones) model.bones.toList
  Mode.check mode .bone bones
  let cubes := matchUp (slots live.cubes) model.cubes.toList
  Mode.check mode .cube cubes
  let deletions :=
    if mode = .replace ∧ deleteOrphans then
      (cubes.orphans model.cubes.toList).map (fun slot => .deleteCube slot.entity.id slot.entity.name)
        ++ boneDeletions live.bones (bones.orphans model.bones.toList)
    else []
  let ops := boneOps model.bones all bones ++ cubeOps model.bones all cubes ++ deletions
  return { ops, summary := .ofOps ops model, revision := live.revision }

end Armature.Plan
