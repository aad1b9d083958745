import Armature.Proofs.Provenance
import Armature.Proofs.Replanning

/-! What a plan writes that does not compare everything: attributes that an entry sets, and nothing
to what is of the starter rig alone. -/

namespace Armature.Plan

variable {K : Type} [Scalar K]

section Gates

variable {set : Bool}

omit [Scalar K] in
lemma set_of_filter {α : Type} {desired : Option α} {differs : α → Bool}
    (h : (desired.filter fun value => set && differs value).isSome = true) : set = true := by
  cases set with
  | true => rfl
  | false => cases desired <;> cases h

omit [Scalar K] in
lemma set_of_switchChange {desired : Option Bool} {live : Bool}
    (h : (switchChange set desired live).isSome = true) : set = true := set_of_filter h

lemma set_of_vectorChange {desired live : Vec3 K}
    (h : (vectorChange set desired live).isSome = true) : set = true := by
  cases set with
  | true => rfl
  | false => cases h

end Gates

/-- A bone is changed only where an entry sets something, and never loses its parent. -/
structure BoneTouched (entry : Spec.Bone K) (changes : BoneChanges K) (toTop : Bool) : Prop where
  parent : changes.parent.isSome = true → entry.parent.isSome = true
  pivot : changes.pivot.isSome = true →
    entry.pivot.isSome = true ∨ entry.pivotAnchor.isSome = true
  rotation : changes.rotation.isSome = true → entry.rotation.isSome = true
  scale : changes.scale.isSome = true → entry.scale.isSome = true
  visibility : changes.visibility.isSome = true → entry.visibility.isSome = true
  keepsParent : toTop = false

structure CubeTouched (entry : Spec.Cube K) (changes : CubeChanges K) : Prop where
  parent : changes.parent.isSome = true → entry.parent.isSome = true
  rotation : changes.rotation.isSome = true → entry.rotation.isSome = true
  inflate : changes.inflate.isSome = true → entry.inflate.isSome = true
  mirror : changes.mirror.isSome = true → entry.mirror.isSome = true
  visibility : changes.visibility.isSome = true → entry.visibility.isSome = true
  boxUv : changes.boxUv.isSome = true → entry.boxUv.isSome = true
  uvOffset : changes.uvOffset.isSome = true → entry.uvOffset.isSome = true

section Diffs

variable {bones : Model.Bones K} {b : Model.Bone K} {c : Model.Cube K} {liveBone : Live.Bone K}
  {liveCube : Live.Cube K}

lemma boneTouched {entry : Spec.Bone K} (hset : b.explicit = entry.flags)
    (hparent : entry.parent.isSome = true → b.parent.isSome = true) :
    BoneTouched entry (diffBone bones false b liveBone).1 (diffBone bones false b liveBone).2 := by
  simp only [diffBone, hset, Spec.Bone.flags, Bool.false_or]
  refine ⟨set_of_filter, fun h => ?_, set_of_vectorChange, set_of_vectorChange,
    set_of_switchChange, ?_⟩
  · simpa using set_of_vectorChange h
  · cases hentry : entry.parent.isSome with
    | false => rfl
    | true => simp [Option.isNone_eq_false_iff.mpr (hparent hentry)]

lemma cubeTouched {entry : Spec.Cube K} (hset : c.explicit = entry.flags) :
    CubeTouched entry (diffCube bones false c liveCube).1 := by
  simp only [diffCube, hset, Spec.Cube.flags, Bool.false_or]
  refine ⟨fun h => ?_, set_of_vectorChange, set_of_filter, set_of_switchChange,
    set_of_switchChange, set_of_switchChange, set_of_filter⟩
  cases hentry : entry.parent.isSome with
  | true => rfl
  | false => simp [hentry] at h

lemma boneStep?_unset (h : b.explicit = {}) (slot : Slot (Live.Bone K)) :
    boneStep? bones false (b, some slot) = none := by
  simp [boneStep?, boneOp?, diffBone, BoneChanges.isEmpty, idChange, nameChange, vectorChange,
    switchChange, h]

lemma cubeStep?_unset (h : c.explicit = {}) (slot : Slot (Live.Cube K)) :
    cubeStep? bones false (c, some slot) = none := by
  simp [cubeStep?, cubeOp?, diffCube, CubeChanges.isEmpty, idChange, nameChange, vectorChange,
      switchChange, h]

end Diffs

section Updates

variable {mode : Mode} {deleteOrphans : Bool} {model : Model K} {live : Live K} {s : Step K}
  {id : Option String} {name : String}

lemma exists_of_updateBone {changes : BoneChanges K} {toTop : Bool}
    (hs : s ∈ sequence mode deleteOrphans model live)
    (hop : s.op = .updateBone id name changes toTop) :
    ∃ b ∈ model.bones.toList, ∃ slot : Slot (Live.Bone K),
      boneStep? model.bones mode.comparesAll (b, some slot) = some s := by
  rcases List.mem_append.mp hs with hs | hs
  · rcases mem_desiredSteps hs with ⟨⟨b, _ | slot⟩, hp, hstep⟩ | ⟨pair, -, hstep⟩
    · cases (Option.some.inj (boneStep?_eq_some.mp hstep).1).trans hop
    · have hb : b ∈ model.bones.toList := by
        rw [← matchUp_pairs_fst (slots live.bones) model.bones.toList]
        exact List.mem_map_of_mem hp
      exact ⟨b, hb, slot, hstep⟩
    · rcases cubeStep?_kind hstep with hkind | hkind <;> simp [Step.kind, hop, Op.kind] at hkind
  · rcases mem_leftSteps hs with ⟨slot, -, rfl⟩ | ⟨slot, -, rfl⟩ <;> cases hop

lemma exists_of_updateCube {changes : CubeChanges K} {toRoot : Bool}
    (hs : s ∈ sequence mode deleteOrphans model live)
    (hop : s.op = .updateCube id name changes toRoot) :
    ∃ c ∈ model.cubes.toList, ∃ slot : Slot (Live.Cube K),
      cubeStep? model.bones mode.comparesAll (c, some slot) = some s := by
  rcases List.mem_append.mp hs with hs | hs
  · rcases mem_desiredSteps hs with ⟨⟨b, _ | slot⟩, -, hstep⟩ | ⟨⟨c, _ | slot⟩, hp, hstep⟩
    · cases (Option.some.inj (boneStep?_eq_some.mp hstep).1).trans hop
    · rw [boneStep?_update hstep] at hop
      cases hop
    · cases (Option.some.inj (cubeStep?_eq_some.mp hstep).1).trans hop
    · have hc : c ∈ model.cubes.toList := by
        rw [← matchUp_pairs_fst (slots live.cubes) model.cubes.toList]
        exact List.mem_map_of_mem hp
      exact ⟨c, hc, slot, hstep⟩
  · rcases mem_leftSteps hs with ⟨slot, -, rfl⟩ | ⟨slot, -, rfl⟩ <;> cases hop

end Updates

section Touches

variable {limits : Limits} {spec : Spec K} {model : Model K} {mode : Mode} {deleteOrphans : Bool}
  {live : Live K} {plan : Plan K}

/-- In `merge` and `patch` an update writes only what the entry sets that the entity is of, and never
takes a bone from its parent; what is of the starter rig alone, or the added root bone, is not
updated. -/
theorem ofModel_touches (hmodel : Model.ofSpec limits spec = .ok model)
    (hmode : mode = .merge ∨ mode = .patch)
    (hplan : ofModel mode deleteOrphans model live = .ok plan) :
    plan.ops = (sequence mode deleteOrphans model live).map Step.op ∧
    ∀ step ∈ sequence mode deleteOrphans model live,
      (∀ id name changes toTop, step.op = .updateBone id name changes toTop →
        ∃ b ∈ model.bones.toList, step.bone? = some b ∧
          (∃ entry ∈ spec.bones, Model.Describes (Spec.Bone.resolve spec.policy) entry b.id) ∧
          ∀ entry ∈ spec.bones, Model.Describes (Spec.Bone.resolve spec.policy) entry b.id →
            BoneTouched entry changes toTop) ∧
      ∀ id name changes toRoot, step.op = .updateCube id name changes toRoot →
        ∃ c ∈ model.cubes.toList, step.cube? = some c ∧
          (c.id ∈ (spec.template.modelCubes (K := K)).ids →
            ∃ entry ∈ spec.cubes, Model.Describes (Spec.Cube.resolve spec.policy) entry c.id) ∧
          ∀ entry ∈ spec.cubes, Model.Describes (Spec.Cube.resolve spec.policy) entry c.id →
            CubeTouched entry changes := by
  have hall : mode.comparesAll = false := by rcases hmode with rfl | rfl <;> rfl
  refine ⟨?_, fun step hstep => ⟨fun id name changes toTop hop => ?_,
    fun id name changes toRoot hop => ?_⟩⟩
  · rw [(ofModel_ok.mp hplan).2.2, sequence_map_op]
  · obtain ⟨b, hb, slot, hs⟩ := exists_of_updateBone hstep hop
    rw [hall] at hs
    refine ⟨b, hb, boneStep?_bone? hs, ?_, fun entry hentry hdescribes => ?_⟩
    · by_contra hnone
      have hset := Model.bone_undescribed hmodel hb fun entry hentry hd => hnone ⟨entry, hentry, hd⟩
      cases (boneStep?_unset hset slot).symm.trans hs
    · obtain ⟨-, hset, hparent⟩ := Model.bone_described hmodel hb hentry hdescribes
      have htouched : BoneTouched entry (diffBone model.bones false b slot.entity).1
          (diffBone model.bones false b slot.entity).2 := by
        refine boneTouched hset fun hsome => ?_
        obtain ⟨parent, hp⟩ := Option.isSome_iff_exists.mp hsome
        rw [hparent parent hp]
        rfl
      rw [boneStep?_update hs] at hop
      cases hop
      exact htouched
  · obtain ⟨c, hc, slot, hs⟩ := exists_of_updateCube hstep hop
    rw [hall] at hs
    refine ⟨c, hc, cubeStep?_cube? hs, fun hrig => ?_, fun entry hentry hdescribes => ?_⟩
    · by_contra hnone
      have hset := Model.cube_undescribed hmodel hc hrig fun entry hentry hd =>
        hnone ⟨entry, hentry, hd⟩
      cases (cubeStep?_unset hset slot).symm.trans hs
    · obtain ⟨-, hset⟩ := Model.cube_described hmodel hc hentry hdescribes
      rw [cubeStep?_update hs] at hop
      cases hop
      exact cubeTouched hset

end Touches

def headSpec : Spec Float where
  bones := [{ id := some "head", visibility := some false }]
  cubes := [{ id := some "visor", parent := some "head", mirror := some true, center := some .zero,
              size := some .one }]

def headLive : Live Float where
  bones := [{ Live.Bone.named "head" with id := some "head", parent := some "neck" },
    Live.Bone.named "root"]

theorem ofModel_touches_head : ∃ model plan,
    Model.ofSpec .standard headSpec = .ok model ∧
      ofModel .merge false model headLive = .ok plan ∧
      ∃ step ∈ sequence .merge false model headLive, ∃ id name changes toTop,
        step.op = .updateBone id name changes toTop ∧ ∃ b ∈ model.bones.toList, step.bone? = some b ∧
          ∃ entry ∈ headSpec.bones,
            Model.Describes (Spec.Bone.resolve headSpec.policy) entry b.id ∧
              BoneTouched entry changes toTop := by
  obtain ⟨model, hmodel⟩ : ∃ model, Model.ofSpec .standard headSpec = .ok model :=
    Attempts.exists_ok (by decide +kernel)
  have hupdate : (sequence .merge false model headLive).any (·.kind = .updateBone) = true := by
    apply Attempts.holds_of_all hmodel
    decide +kernel
  obtain ⟨step, hstep, hkind⟩ := List.any_eq_true.mp hupdate
  have hplan : ofModel .merge false model headLive = .ok _ := ofModel_ok.mpr ⟨rfl, rfl, rfl⟩
  obtain ⟨-, htouches⟩ := ofModel_touches hmodel (.inl rfl) hplan
  obtain ⟨id, name, changes, toTop, hop⟩ : ∃ id name changes toTop,
      step.op = .updateBone id name changes toTop := by
    have hkind : step.op.kind = .updateBone := of_decide_eq_true hkind
    cases hop : step.op with
    | updateBone id name changes toTop => exact ⟨id, name, changes, toTop, rfl⟩
    | _ =>
      rw [hop] at hkind
      cases hkind
  obtain ⟨b, hb, hbone, ⟨entry, hentry, hdescribes⟩, htouched⟩ :=
    (htouches step hstep).1 id name changes toTop hop
  exact ⟨model, _, hmodel, hplan, step, hstep, id, name, changes, toTop, hop, b, hb, hbone, entry,
    hentry, hdescribes, htouched entry hentry hdescribes⟩

end Armature.Plan
