import Armature.Model.Anchoring
import Armature.Model.Copies
import Armature.Model.Entry
import Armature.Model.Hierarchy
/-!
From a spec to its model: the starter rig, the caller's entries over it, the root bone, the checks,
the anchors, the copies, and at last the grid and the bounds. The first fault ends it.
-/

namespace Armature

variable {K : Type} [Scalar K]

namespace Spec.Policy

/-- A positive grid, and bounds that hold a point. -/
def check (policy : Policy K) : Except (Fault K) Unit := do
  match policy.snapGrid with
  | some grid =>
    if !(Scalar.isFinite grid && Scalar.lt Scalar.zero grid) then throw (.badGrid grid)
  | none => pure ()
  match policy.bounds with
  | some bounds => if !bounds.isValid then throw (.badBounds bounds)
  | none => pure ()

def place (policy : Policy K) (position : Vec3 K) : Vec3 K :=
  let snapped := policy.snapGrid.elim position position.snap
  policy.bounds.elim snapped snapped.clamp

end Spec.Policy

namespace Model

def Bone.place (policy : Spec.Policy K) (b : Bone K) : Bone K :=
  { b with pivot := policy.place b.pivot }

def Cube.place (policy : Spec.Policy K) (c : Cube K) : Cube K :=
  { c with
    lower := policy.place c.lower
    upper := policy.place c.upper
    origin := policy.place c.origin }

/-- The bones with a root bone ahead of them, if the policy asks for one and there is none. -/
def addRoot (policy : Spec.Policy K) (bones : Bones K) : Bones K :=
  if policy.enforceRoot then bones.insertFirst (.ofId rootId none) else bones

def merge (spec : Spec K) : Except (Fault K) (Merge (Bone K) × Merge (Cube K)) := do
  let bones ← mergeEntries .bone (Spec.Bone.resolve spec.policy) spec.template.modelBones spec.bones
  let cubes ← mergeEntries .cube (Spec.Cube.resolve spec.policy) spec.template.modelCubes spec.cubes
  return (bones, cubes)

def ofSpec (limits : Limits) (spec : Spec K) : Except (Fault K) (Model K) := do
  spec.policy.check
  let (mergedBones, mergedCubes) ← merge spec
  let bones := addRoot spec.policy mergedBones.roster
  checkBones limits bones
  checkCubes limits bones mergedCubes.roster
  let (bones, cubes) ← resolveAnchors spec bones mergedCubes.roster
  let copying ← expand limits.maxCubes spec.instances cubes
  checkCubeCount limits.maxCubes copying.cubes
  checkCubeNames [] copying.cubes.toList
  return {
    bones := bones.map (Bone.place spec.policy) fun _ => rfl
    cubes := copying.cubes.map (Cube.place spec.policy) fun _ => rfl
    warnings := mergedBones.warnings ++ mergedCubes.warnings ++ copying.warnings }

end Model

end Armature
