import Armature.Proofs.Planning

/-! The steps of a plan: its operations together with what each one is about, as they come up and in
the order of the plan. -/

namespace Armature.Plan

variable {K : Type}

/-- What an operation is about: a desired entity and what it claimed, or a live one that is left
over. -/
inductive Subject (K : Type)
  | bone (bone : Model.Bone K) (claim : Option (Slot (Live.Bone K)))
  | cube (cube : Model.Cube K) (claim : Option (Slot (Live.Cube K)))
  | leftBone (slot : Slot (Live.Bone K))
  | leftCube (slot : Slot (Live.Cube K))

structure Step (K : Type) where
  op : Op K
  subject : Subject K

namespace Step

def kind (s : Step K) : OpKind := s.op.kind

def bone? (s : Step K) : Option (Model.Bone K) :=
  match s.subject with
  | .bone bone _ => some bone
  | _ => none

def cube? (s : Step K) : Option (Model.Cube K) :=
  match s.subject with
  | .cube cube _ => some cube
  | _ => none

def leftBone? (s : Step K) : Option (Slot (Live.Bone K)) :=
  match s.subject with
  | .leftBone slot => some slot
  | _ => none

def leftCube? (s : Step K) : Option (Slot (Live.Cube K)) :=
  match s.subject with
  | .leftCube slot => some slot
  | _ => none

end Step

def leftBoneStep (slot : Slot (Live.Bone K)) : Step K :=
  ⟨.deleteBone slot.entity.id slot.entity.name, .leftBone slot⟩

def leftCubeStep (slot : Slot (Live.Cube K)) : Step K :=
  ⟨.deleteCube slot.entity.id slot.entity.name, .leftCube slot⟩

@[simp] lemma leftBone?_leftBoneStep (slot : Slot (Live.Bone K)) :
    (leftBoneStep slot).leftBone? = some slot := rfl

@[simp] lemma leftBone?_leftCubeStep (slot : Slot (Live.Cube K)) :
    (leftCubeStep slot).leftBone? = none := rfl

@[simp] lemma leftCube?_leftBoneStep (slot : Slot (Live.Bone K)) :
    (leftBoneStep slot).leftCube? = none := rfl

@[simp] lemma leftCube?_leftCubeStep (slot : Slot (Live.Cube K)) :
    (leftCubeStep slot).leftCube? = some slot := rfl

def leftBoneSteps (live : List (Live.Bone K)) (orphans : List (Slot (Live.Bone K))) :
    List (Step K) :=
  (orphans.mergeSort fun a b => depth (links live) b.index ≤ depth (links live) a.index).map
    leftBoneStep

variable [Scalar K]

def boneStep? (bones : Model.Bones K) (all : Bool)
    (pair : Model.Bone K × Option (Slot (Live.Bone K))) : Option (Step K) :=
  (boneOp? bones all pair).map (⟨·, .bone pair.1 pair.2⟩)

def cubeStep? (bones : Model.Bones K) (all : Bool)
    (pair : Model.Cube K × Option (Slot (Live.Cube K))) : Option (Step K) :=
  (cubeOp? bones all pair).map (⟨·, .cube pair.1 pair.2⟩)

def boneSteps (bones : Model.Bones K) (all : Bool) (m : Matching (Model.Bone K) (Live.Bone K)) :
    List (Step K) :=
  (Model.topDown bones).filterMap fun id =>
    (m.pairs.find? fun pair => pair.1.id == id).bind (boneStep? bones all)

def cubeSteps (bones : Model.Bones K) (all : Bool) (m : Matching (Model.Cube K) (Live.Cube K))
    (kind : OpKind) : List (Step K) :=
  (m.pairs.filterMap (cubeStep? bones all)).filter (·.kind = kind)

/-- The steps as they come up: for every bone and every cube in the order of the model, then for the
cubes and the bones that are left over in the order of the snapshot. -/
def emitted (mode : Mode) (deleteOrphans : Bool) (model : Model K) (live : Live K) : List (Step K) :=
  (boneMatching model live).pairs.filterMap (boneStep? model.bones mode.comparesAll) ++
    (cubeMatching model live).pairs.filterMap (cubeStep? model.bones mode.comparesAll) ++
    if mode = .replace ∧ deleteOrphans then
      ((cubeMatching model live).orphans model.cubes.toList).map leftCubeStep ++
        ((boneMatching model live).orphans model.bones.toList).map leftBoneStep
    else []

def desiredSteps (mode : Mode) (model : Model K) (live : Live K) : List (Step K) :=
  boneSteps model.bones mode.comparesAll (boneMatching model live) ++
    (cubeSteps model.bones mode.comparesAll (cubeMatching model live) .createCube ++
      cubeSteps model.bones mode.comparesAll (cubeMatching model live) .updateCube)

def leftSteps (mode : Mode) (deleteOrphans : Bool) (model : Model K) (live : Live K) :
    List (Step K) :=
  if mode = .replace ∧ deleteOrphans then
    ((cubeMatching model live).orphans model.cubes.toList).map leftCubeStep ++
      leftBoneSteps live.bones ((boneMatching model live).orphans model.bones.toList)
  else []

def sequence (mode : Mode) (deleteOrphans : Bool) (model : Model K) (live : Live K) :
    List (Step K) :=
  desiredSteps mode model live ++ leftSteps mode deleteOrphans model live

section Ops

variable {bones : Model.Bones K} {all : Bool}

lemma boneStep?_eq_some {pair : Model.Bone K × Option (Slot (Live.Bone K))} {s : Step K} :
    boneStep? bones all pair = some s ↔
      boneOp? bones all pair = some s.op ∧ s.subject = .bone pair.1 pair.2 := by
  rw [boneStep?, Option.map_eq_some_iff]
  constructor
  · rintro ⟨op, hop, rfl⟩
    exact ⟨hop, rfl⟩
  · exact fun ⟨hop, hs⟩ => ⟨s.op, hop, hs ▸ rfl⟩

lemma cubeStep?_eq_some {pair : Model.Cube K × Option (Slot (Live.Cube K))} {s : Step K} :
    cubeStep? bones all pair = some s ↔
      cubeOp? bones all pair = some s.op ∧ s.subject = .cube pair.1 pair.2 := by
  rw [cubeStep?, Option.map_eq_some_iff]
  constructor
  · rintro ⟨op, hop, rfl⟩
    exact ⟨hop, rfl⟩
  · exact fun ⟨hop, hs⟩ => ⟨s.op, hop, hs ▸ rfl⟩

lemma boneSteps_map_op (m : Matching (Model.Bone K) (Live.Bone K)) :
    (boneSteps bones all m).map Step.op = boneOps bones all m := by
  rw [boneSteps, boneOps, List.map_filterMap]
  congr 1
  funext id
  cases m.pairs.find? fun pair => pair.1.id == id with
  | none => rfl
  | some pair => simp [boneStep?, Function.comp_def]

lemma cubeSteps_map_op (m : Matching (Model.Cube K) (Live.Cube K)) (kind : OpKind) :
    (cubeSteps bones all m kind).map Step.op =
      (m.pairs.filterMap (cubeOp? bones all)).filter (·.kind = kind) := by
  have hops : (m.pairs.filterMap (cubeStep? bones all)).map Step.op =
      m.pairs.filterMap (cubeOp? bones all) := by
    rw [List.map_filterMap]
    congr 1
    funext pair
    simp [cubeStep?, Function.comp_def]
  rw [cubeSteps, ← hops, List.filter_map]
  rfl

omit [Scalar K] in
lemma leftBoneSteps_map_op (live : List (Live.Bone K)) (orphans : List (Slot (Live.Bone K))) :
    (leftBoneSteps live orphans).map Step.op = boneDeletions live orphans := by
  have hsort : (orphans.map fun slot => (depth (links live) slot.index, slot.entity)).mergeSort
        (fun a b => b.1 ≤ a.1) =
      (orphans.mergeSort fun a b => depth (links live) b.index ≤ depth (links live) a.index).map
        fun slot => (depth (links live) slot.index, slot.entity) :=
    (List.map_mergeSort (by intros; rfl)).symm
  rw [leftBoneSteps, boneDeletions, hsort, List.map_map, List.map_map]
  rfl

end Ops

lemma sequence_map_op (mode : Mode) (deleteOrphans : Bool) (model : Model K) (live : Live K) :
    (sequence mode deleteOrphans model live).map Step.op = opsFor mode deleteOrphans model live := by
  rw [sequence, desiredSteps, leftSteps, opsFor, List.map_append, List.map_append, List.map_append,
    boneSteps_map_op, cubeSteps_map_op, cubeSteps_map_op, cubeOps]
  split_ifs
  · rw [List.map_append, leftBoneSteps_map_op, List.map_map]
    rfl
  · rfl

end Armature.Plan
