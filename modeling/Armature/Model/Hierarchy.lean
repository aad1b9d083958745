import Armature.Fault
import Armature.Graph.Room
/-!
Bones and their parents: climbing from a bone towards the top of the hierarchy, and what makes a
hierarchy sound.
-/

namespace Armature.Model

variable {K : Type}

structure Climb where
  /-- The ids passed, the last one first. -/
  passed : List String
  /-- The id that was met for the second time, if that ended the climb. -/
  repeated : Option String

/-- Climbs from `id` for as long as bones are found that are not `settled`, passing none twice. -/
def climb (bones : Bones K) (settled : List String) (passed : List String) (id : String) : Climb :=
  if settled.contains id then ⟨passed, none⟩
  else if hp : id ∈ passed then ⟨passed, some id⟩
  else
    match h : bones.get? id with
    | none => ⟨passed, none⟩
    | some bone =>
      have := room_cons_lt (Roster.mem_ids_of_get? h) hp
      match bone.parent with
      | none => ⟨id :: passed, none⟩
      | some parent => climb bones settled (id :: passed) parent
termination_by room bones.ids passed

/-- Climbs from every bone in turn, up to bones that an earlier climb has passed. A climb that passes
a bone twice shows a cycle. -/
def checkCycles (bones : Bones K) : (settled ids : List String) → Except (Fault K) Unit
  | _, [] => .ok ()
  | settled, id :: rest =>
    match climb bones settled [] id with
    | ⟨passed, some again⟩ => .error (.parentCycle (passed.reverse ++ [again]))
    | ⟨passed, none⟩ => checkCycles bones (passed ++ settled) rest

/-- The ids of all bones, each one after its parent unless they are parents of each other: the bones
that a climb from each bone in turn finds new, from the top down. -/
def topDown (bones : Bones K) : List String :=
  bones.ids.foldl (fun settled id => settled ++ (climb bones settled [] id).passed) []

def checkName {α : Type} [Identified α] (kind : Kind) (name : α → String) (earlier : List α) (a : α) :
    Except (Fault K) Unit :=
  match earlier.find? fun b => name b == name a with
  | some b => .error (.duplicateName kind (name a) (Identified.id b) (Identified.id a))
  | none => .ok ()

def checkBonesFrom (bones : Bones K) : (earlier rest : List (Bone K)) → Except (Fault K) Unit
  | _, [] => .ok ()
  | earlier, bone :: rest => do
    checkName .bone Bone.name earlier bone
    match bone.parent with
    | some parent =>
      if bones.contains parent then checkBonesFrom bones (bone :: earlier) rest
      else throw (.unknownParent .bone bone.id parent)
    | none => checkBonesFrom bones (bone :: earlier) rest

def checkBones (limits : Limits) (bones : Bones K) : Except (Fault K) Unit := do
  if limits.maxBones < bones.size then throw (.tooManyBones bones.size limits)
  checkBonesFrom bones [] bones.toList
  checkCycles bones [] bones.ids

def checkCubeNames : (earlier rest : List (Cube K)) → Except (Fault K) Unit
  | _, [] => .ok ()
  | earlier, cube :: rest => do
    checkName .cube Cube.name earlier cube
    checkCubeNames (cube :: earlier) rest

def checkCubeCount (limit : Nat) (cubes : Cubes K) : Except (Fault K) Unit :=
  if limit < cubes.size then .error (.tooManyCubes cubes.size limit) else .ok ()

def checkCubes (limits : Limits) (bones : Bones K) (cubes : Cubes K) : Except (Fault K) Unit := do
  checkCubeNames [] cubes.toList
  match cubes.toList.find? fun cube => !bones.contains cube.parent with
  | some cube => throw (.unknownParent .cube cube.id cube.parent)
  | none => checkCubeCount limits.maxCubes cubes

end Armature.Model
