import Armature.Proofs.Replanning

/-! What the operations of a plan are about: a desired entity is created or updated once at most, an
update changes something, and a live entity is worked on once at most. -/

namespace Armature.Plan

section Parts

variable {K : Type}

namespace Step

def bonePair? (s : Step K) : Option (Model.Bone K × Option (Slot (Live.Bone K))) :=
  match s.subject with
  | .bone bone claim => some (bone, claim)
  | _ => none

def cubePair? (s : Step K) : Option (Model.Cube K × Option (Slot (Live.Cube K))) :=
  match s.subject with
  | .cube cube claim => some (cube, claim)
  | _ => none

/-- The operation is one on the subject of the step, and not in vain. -/
def Fits (s : Step K) : Prop :=
  match s.subject with
  | .bone bone none => s.op = .createBone bone.toLive
  | .bone _ (some slot) => ∃ changes toTop,
    s.op = .updateBone slot.entity.id slot.entity.name changes toTop ∧
      (changes.isEmpty = false ∨ toTop = true ∧ slot.entity.parent.isSome = true)
  | .cube cube none => s.op = .createCube cube.toLive
  | .cube _ (some slot) => ∃ changes toRoot,
    s.op = .updateCube slot.entity.id slot.entity.name changes toRoot ∧ changes.isEmpty = false
  | .leftBone slot => s.op = .deleteBone slot.entity.id slot.entity.name
  | .leftCube slot => s.op = .deleteCube slot.entity.id slot.entity.name

@[simp] lemma bonePair?_leftBoneStep (slot : Slot (Live.Bone K)) :
    (leftBoneStep slot).bonePair? = none := rfl

@[simp] lemma bonePair?_leftCubeStep (slot : Slot (Live.Cube K)) :
    (leftCubeStep slot).bonePair? = none := rfl

@[simp] lemma cubePair?_leftBoneStep (slot : Slot (Live.Bone K)) :
    (leftBoneStep slot).cubePair? = none := rfl

@[simp] lemma cubePair?_leftCubeStep (slot : Slot (Live.Cube K)) :
    (leftCubeStep slot).cubePair? = none := rfl

end Step

variable [Scalar K] {bones : Model.Bones K} {all : Bool} {s : Step K}

lemma fits_boneStep {pair : Model.Bone K × Option (Slot (Live.Bone K))}
    (h : boneStep? bones all pair = some s) : s.Fits := by
  obtain ⟨bone, claim⟩ := pair
  cases claim with
  | none =>
    obtain rfl := Option.some.inj h
    rfl
  | some slot =>
    have hop := (boneStep?_eq_some.mp h).1
    rw [boneStep?_update h]
    refine ⟨_, _, rfl, ?_⟩
    cases hempty : (diffBone bones all bone slot.entity).1.isEmpty with
    | false => exact .inl rfl
    | true =>
      cases htop : (diffBone bones all bone slot.entity).2 with
      | false => simp [boneOp?, hempty, htop] at hop
      | true =>
        simp only [diffBone, Bool.and_eq_true] at htop
        exact .inr ⟨rfl, htop.2⟩

lemma fits_cubeStep {pair : Model.Cube K × Option (Slot (Live.Cube K))}
    (h : cubeStep? bones all pair = some s) : s.Fits := by
  obtain ⟨cube, claim⟩ := pair
  cases claim with
  | none =>
    obtain rfl := Option.some.inj h
    rfl
  | some slot =>
    have hop := (cubeStep?_eq_some.mp h).1
    rw [cubeStep?_update h]
    refine ⟨_, _, rfl, ?_⟩
    cases hempty : (diffCube bones all cube slot.entity).1.isEmpty with
    | false => rfl
    | true => simp [cubeOp?, hempty] at hop

lemma fits_of_mem_sequence {mode : Mode} {deleteOrphans : Bool} {model : Model K} {live : Live K}
    (h : s ∈ sequence mode deleteOrphans model live) : s.Fits := by
  rcases List.mem_append.mp h with h | h
  · rcases mem_desiredSteps h with ⟨_, -, hs⟩ | ⟨_, -, hs⟩
    · exact fits_boneStep hs
    · exact fits_cubeStep hs
  · rcases mem_leftSteps h with ⟨_, -, rfl⟩ | ⟨_, -, rfl⟩ <;> rfl

end Parts

section Shares

variable {α β : Type} [Desired α] [Named β]

/-- How desired and live entities of one kind come into the operations of a plan: `worked` are those
that are created or updated, together with what they stand for, and `left` those that are deleted. -/
structure Accounted (live : List β) (l : List α) (deletes : Prop)
    (worked : List (α × Option (Slot β))) (left : List (Slot β)) : Prop where
  matched : (matchUp (slots live) l).pairs.map Prod.fst = l
  claimed_subset : (matchUp (slots live) l).claimed ⊆ slots live
  unshared : ((matchUp (slots live) l).claimed.map Slot.index).Nodup
  once : (worked.map fun pair => Identified.id pair.1).Nodup
  worked_subset : worked ⊆ (matchUp (slots live) l).pairs
  created : ∀ a, (a, none) ∈ (matchUp (slots live) l).pairs → (a, none) ∈ worked
  subjects : ((worked.filterMap Prod.snd ++ left).map Slot.index).Nodup
  kept : ¬ deletes → left = []
  deleted : deletes → ∀ slot, slot ∈ left ↔ slot ∈ slots live ∧
    (∀ a, (a, some slot) ∉ (matchUp (slots live) l).pairs) ∧ Undesired l slot.entity

variable {live : List β} {l : List α} {deletes : Prop} [Decidable deletes]
  {worked : List (α × Option (Slot β))} {left : List (Slot β)} {does : α × Option (Slot β) → Bool}

lemma accounted (hids : (l.map Identified.id).Nodup) (hcreate : ∀ a, does (a, none) = true)
    (hworked : worked.Perm ((matchUp (slots live) l).pairs.filter does))
    (hleft : left.Perm (if deletes then (matchUp (slots live) l).orphans l else [])) :
    Accounted live l deletes worked left := by
  have hpairs := matchUp_pairs_fst (slots live) l
  have hapart := matchUp_distinct (slots_distinct live) l
  refine ⟨hpairs, ?_, ?_, ?_, ?_, ?_, ?_, ?_, ?_⟩
  · intro slot hslot
    exact (matchUp_perm (slots_distinct live) l).subset (List.mem_append_left _ hslot)
  · exact hapart.sublist ((List.sublist_append_left _ _).map _)
  · refine (hworked.map _).nodup_iff.mpr ((List.filter_sublist.map _).nodup ?_)
    rwa [← hpairs, List.map_map] at hids
  · intro pair hp
    exact List.mem_of_mem_filter (hworked.subset hp)
  · intro a ha
    exact hworked.mem_iff.mpr (List.mem_filter.mpr ⟨ha, hcreate a⟩)
  · have hclaimed : ((matchUp (slots live) l).pairs.filter does).filterMap Prod.snd |>.Sublist
        (matchUp (slots live) l).claimed := List.filter_sublist.filterMap _
    have hfree : (if deletes then (matchUp (slots live) l).orphans l else []).Sublist
        (matchUp (slots live) l).free := by
      split_ifs
      · exact List.filter_sublist
      · exact List.nil_sublist _
    refine (((hworked.filterMap _).append hleft).map _).nodup_iff.mpr ?_
    exact hapart.sublist ((hclaimed.append hfree).map _)
  · intro hnot
    rw [if_neg hnot] at hleft
    exact hleft.eq_nil
  · intro hdeletes slot
    rw [if_pos hdeletes] at hleft
    rw [hleft.mem_iff, mem_orphans_iff (slots_distinct live)]

end Shares

section Sequences

variable {K : Type} [Scalar K] {mode : Mode} {deleteOrphans : Bool} {model : Model K} {live : Live K}

lemma filterMap_bind_back {γ δ : Type} {f : γ → Option δ} {g : δ → Option γ}
    (h : ∀ c d, f c = some d → g d = some c) (l : List γ) :
    (l.filterMap fun c => (f c).bind g) = l.filter fun c => (f c).isSome := by
  induction l with
  | nil => rfl
  | cons c l ih =>
    cases hf : f c with
    | none => simp [hf, ih]
    | some d => simp [hf, ih, h c d hf]

lemma filterMap_bind_none {γ δ ε : Type} {f : γ → Option δ} {g : δ → Option ε}
    (h : ∀ c d, f c = some d → g d = none) (l : List γ) :
    (l.filterMap fun c => (f c).bind g) = [] := by
  refine List.filterMap_eq_nil_iff.mpr fun c _ => ?_
  cases hf : f c with
  | none => rfl
  | some d => exact h c d hf

section Keys

variable {bones : Model.Bones K} {all : Bool} {s : Step K}

lemma bonePair?_boneStep {pair : Model.Bone K × Option (Slot (Live.Bone K))}
    (h : boneStep? bones all pair = some s) : s.bonePair? = some pair := by
  rw [Step.bonePair?, (boneStep?_eq_some.mp h).2]

lemma cubePair?_boneStep {pair : Model.Bone K × Option (Slot (Live.Bone K))}
    (h : boneStep? bones all pair = some s) : s.cubePair? = none := by
  rw [Step.cubePair?, (boneStep?_eq_some.mp h).2]

lemma bonePair?_cubeStep {pair : Model.Cube K × Option (Slot (Live.Cube K))}
    (h : cubeStep? bones all pair = some s) : s.bonePair? = none := by
  rw [Step.bonePair?, (cubeStep?_eq_some.mp h).2]

lemma cubePair?_cubeStep {pair : Model.Cube K × Option (Slot (Live.Cube K))}
    (h : cubeStep? bones all pair = some s) : s.cubePair? = some pair := by
  rw [Step.cubePair?, (cubeStep?_eq_some.mp h).2]

lemma leftBone?_boneStep {pair : Model.Bone K × Option (Slot (Live.Bone K))}
    (h : boneStep? bones all pair = some s) : s.leftBone? = none := by
  rw [Step.leftBone?, (boneStep?_eq_some.mp h).2]

lemma leftBone?_cubeStep {pair : Model.Cube K × Option (Slot (Live.Cube K))}
    (h : cubeStep? bones all pair = some s) : s.leftBone? = none := by
  rw [Step.leftBone?, (cubeStep?_eq_some.mp h).2]

lemma leftCube?_boneStep {pair : Model.Bone K × Option (Slot (Live.Bone K))}
    (h : boneStep? bones all pair = some s) : s.leftCube? = none := by
  rw [Step.leftCube?, (boneStep?_eq_some.mp h).2]

lemma leftCube?_cubeStep {pair : Model.Cube K × Option (Slot (Live.Cube K))}
    (h : cubeStep? bones all pair = some s) : s.leftCube? = none := by
  rw [Step.leftCube?, (cubeStep?_eq_some.mp h).2]

end Keys

lemma bonePairs_sequence : ((sequence mode deleteOrphans model live).filterMap Step.bonePair?).Perm
    ((boneMatching model live).pairs.filter fun pair =>
      (boneStep? model.bones mode.comparesAll pair).isSome) := by
  refine (sequence_perm.filterMap _).trans (.of_eq ?_)
  rw [filterMap_emitted_bones (fun _ _ => bonePair?_cubeStep) Step.bonePair?_leftCubeStep,
    filterMap_bind_back fun _ _ => bonePair?_boneStep]
  simp

lemma cubePairs_sequence : ((sequence mode deleteOrphans model live).filterMap Step.cubePair?).Perm
    ((cubeMatching model live).pairs.filter fun pair =>
      (cubeStep? model.bones mode.comparesAll pair).isSome) := by
  refine (sequence_perm.filterMap _).trans (.of_eq ?_)
  rw [filterMap_emitted_cubes (fun _ _ => cubePair?_boneStep) Step.cubePair?_leftBoneStep,
    filterMap_bind_back fun _ _ => cubePair?_cubeStep]
  simp

lemma leftBones_sequence : ((sequence mode deleteOrphans model live).filterMap Step.leftBone?).Perm
    (deletedBones mode deleteOrphans model live) := by
  refine (sequence_perm.filterMap _).trans (.of_eq ?_)
  rw [filterMap_emitted_bones (fun _ _ => leftBone?_cubeStep) leftBone?_leftCubeStep,
    filterMap_bind_none fun _ _ => leftBone?_boneStep, List.nil_append]
  exact List.filterMap_some

lemma leftCubes_sequence : ((sequence mode deleteOrphans model live).filterMap Step.leftCube?).Perm
    (deletedCubes mode deleteOrphans model live) := by
  refine (sequence_perm.filterMap _).trans (.of_eq ?_)
  rw [filterMap_emitted_cubes (fun _ _ => leftCube?_boneStep) leftCube?_leftBoneStep,
    filterMap_bind_none fun _ _ => leftCube?_cubeStep, List.nil_append]
  exact List.filterMap_some

end Sequences

section Tallies

namespace Summary

def count (s : Summary) : OpKind → ℕ
  | .createBone => s.createBone
  | .updateBone => s.updateBone
  | .deleteBone => s.deleteBone
  | .createCube => s.createCube
  | .updateCube => s.updateCube
  | .deleteCube => s.deleteCube

structure Tallies {K : Type} (s : Summary) (ops : List (Op K)) : Prop where
  count : ∀ kind, s.count kind = ops.countP (·.kind = kind)
  total : s.total = (OpKind.all.map s.count).sum

lemma sum_countP {K : Type} (ops : List (Op K)) :
    (OpKind.all.map fun kind => ops.countP (·.kind = kind)).sum = ops.length := by
  induction ops with
  | nil => rfl
  | cons op ops ih =>
    simp only [OpKind.all, List.map_cons, List.map_nil, List.sum_cons, List.sum_nil,
      List.countP_cons, List.length_cons] at ih ⊢
    cases op.kind <;> simp <;> omega

lemma tallies_ofOps {K : Type} (ops : List (Op K)) (model : Model K) :
    (ofOps ops model).Tallies ops := by
  have hcount : ∀ kind, (ofOps ops model).count kind = ops.countP (·.kind = kind) := by
    intro kind
    cases kind <;> rfl
  refine ⟨hcount, ?_⟩
  rw [funext hcount, sum_countP]
  rfl

end Summary

end Tallies

section Plans

variable {K : Type} [Scalar K] {mode : Mode} {deleteOrphans : Bool} {model : Model K} {live : Live K}

/-- Every operation of a plan is on what its step is about; the steps account for all desired and all
live entities, and the summary for all operations. -/
theorem ofModel_accounted {plan : Plan K} (hplan : ofModel mode deleteOrphans model live = .ok plan) :
    (sequence mode deleteOrphans model live).map Step.op = plan.ops ∧
      (∀ s ∈ sequence mode deleteOrphans model live, s.Fits) ∧
      Accounted live.bones model.bones.toList (mode = .replace ∧ deleteOrphans = true)
        ((sequence mode deleteOrphans model live).filterMap Step.bonePair?)
        ((sequence mode deleteOrphans model live).filterMap Step.leftBone?) ∧
      Accounted live.cubes model.cubes.toList (mode = .replace ∧ deleteOrphans = true)
        ((sequence mode deleteOrphans model live).filterMap Step.cubePair?)
        ((sequence mode deleteOrphans model live).filterMap Step.leftCube?) ∧
      plan.summary.Tallies plan.ops := by
  obtain ⟨-, -, rfl⟩ := ofModel_ok.mp hplan
  refine ⟨sequence_map_op .., fun s hs => fits_of_mem_sequence hs, ?_, ?_, Summary.tallies_ofOps ..⟩
  · exact accounted model.bones.nodup (fun _ => rfl) bonePairs_sequence leftBones_sequence
  · exact accounted model.cubes.nodup (fun _ => rfl) cubePairs_sequence leftCubes_sequence

theorem ofModel_accounted_twins :
    ∃ m, Model.ofSpec .standard (Spec.critter : Spec Float) = .ok m ∧
      ∃ plan, ofModel .replace true m twinBones = .ok plan ∧
        (sequence .replace true m twinBones).map Step.op = plan.ops ∧
          (∀ s ∈ sequence .replace true m twinBones, s.Fits) ∧
          Accounted twinBones.bones m.bones.toList (Mode.replace = .replace ∧ true = true)
            ((sequence .replace true m twinBones).filterMap Step.bonePair?)
            ((sequence .replace true m twinBones).filterMap Step.leftBone?) ∧
          Accounted twinBones.cubes m.cubes.toList (Mode.replace = .replace ∧ true = true)
            ((sequence .replace true m twinBones).filterMap Step.cubePair?)
            ((sequence .replace true m twinBones).filterMap Step.leftCube?) ∧
          plan.summary.Tallies plan.ops := by
  obtain ⟨m, hm⟩ : ∃ m, Model.ofSpec .standard (Spec.critter : Spec Float) = .ok m :=
    Attempts.exists_ok (by decide +kernel)
  obtain ⟨plan, hplan⟩ : ∃ plan, ofModel .replace true m twinBones = .ok plan :=
    ⟨_, ofModel_ok.mpr ⟨rfl, rfl, rfl⟩⟩
  exact ⟨m, hm, plan, hplan, ofModel_accounted hplan⟩

end Plans

end Armature.Plan
