import Armature.Model.OfSpec
import Armature.Proofs.Attempts

/-! The stages that a spec goes through when none of them finds a fault. -/

namespace Armature.Model

variable {K : Type} [Scalar K]

def placeBones (policy : Spec.Policy K) (bones : Bones K) : Bones K :=
  bones.map (Bone.place policy) fun _ => rfl

def placeCubes (policy : Spec.Policy K) (cubes : Cubes K) : Cubes K :=
  cubes.map (Cube.place policy) fun _ => rfl

/-- The results of the stages of a spec without faults, each one made from those before it. -/
structure Stages (limits : Limits) (spec : Spec K) where
  mergedBones : Merge (Bone K)
  mergedCubes : Merge (Cube K)
  bones : Bones K
  cubes : Cubes K
  copying : Copying K
  policy_ok : spec.policy.check = .ok ()
  bones_merged :
    mergeEntries .bone (Spec.Bone.resolve spec.policy) spec.template.modelBones spec.bones =
      .ok mergedBones
  cubes_merged :
    mergeEntries .cube (Spec.Cube.resolve spec.policy) spec.template.modelCubes spec.cubes =
      .ok mergedCubes
  bones_ok : checkBones limits (addRoot spec.policy mergedBones.roster) = .ok ()
  cubes_ok : checkCubes limits (addRoot spec.policy mergedBones.roster) mergedCubes.roster = .ok ()
  anchored :
    resolveAnchors spec (addRoot spec.policy mergedBones.roster) mergedCubes.roster =
      .ok (bones, cubes)
  expanded : expand limits.maxCubes spec.instances cubes = .ok copying
  count_ok : checkCubeCount (K := K) limits.maxCubes copying.cubes = .ok ()
  names_ok : checkCubeNames (K := K) [] copying.cubes.toList = .ok ()

variable {limits : Limits} {spec : Spec K}

def Stages.model (s : Stages limits spec) : Model K where
  bones := placeBones spec.policy s.bones
  cubes := placeCubes spec.policy s.copying.cubes
  warnings := s.mergedBones.warnings ++ s.mergedCubes.warnings ++ s.copying.warnings

lemma exists_stages {m : Model K} (h : ofSpec limits spec = .ok m) :
    ∃ s : Stages limits spec, s.model = m := by
  obtain ⟨hpolicy, h⟩ := Attempts.then_ok.mp h
  obtain ⟨⟨mergedBones, mergedCubes⟩, hmerge, h⟩ := Attempts.bind_ok.mp h
  obtain ⟨_, hbones, hmerge⟩ := Attempts.bind_ok.mp hmerge
  obtain ⟨_, hcubes, hmerge⟩ := Attempts.bind_ok.mp hmerge
  cases hmerge
  obtain ⟨hcheck, h⟩ := Attempts.then_ok.mp h
  obtain ⟨hcheck', h⟩ := Attempts.then_ok.mp h
  obtain ⟨⟨bones, cubes⟩, hanchors, h⟩ := Attempts.bind_ok.mp h
  obtain ⟨copying, hexpand, h⟩ := Attempts.bind_ok.mp h
  obtain ⟨hcount, h⟩ := Attempts.then_ok.mp h
  obtain ⟨hnames, h⟩ := Attempts.then_ok.mp h
  cases h
  exact ⟨⟨mergedBones, mergedCubes, bones, cubes, copying, hpolicy, hbones, hcubes, hcheck, hcheck',
    hanchors, hexpand, hcount, hnames⟩, rfl⟩

lemma Stages.ofSpec_eq (s : Stages limits spec) : ofSpec limits spec = .ok s.model := by
  have hmerge : merge spec = .ok (s.mergedBones, s.mergedCubes) := by
    rw [merge, s.bones_merged, s.cubes_merged]
    rfl
  rw [ofSpec, s.policy_ok, hmerge]
  simp only [bind, Except.bind, s.bones_ok, s.cubes_ok, s.anchored, s.expanded, s.count_ok,
    s.names_ok]
  rfl

end Armature.Model
