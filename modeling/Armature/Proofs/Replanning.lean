import Armature.Proofs.Enacting

/-! Planning again after a plan was carried out. Whatever an applier does with the other attributes,
if it writes ids and names as the plan says, every desired entity claims the live one that came to
stand for it: nothing is created and nothing is deleted. -/

namespace Armature.Plan

variable {K : Type}

/-- A way of writing the changes of an update, of which only ids and names are laid down. -/
structure Writing (K : Type) where
  bone : BoneChanges K → Bool → Live.Bone K → Live.Bone K
  cube : CubeChanges K → Live.Cube K → Live.Cube K
  bone_id : ∀ changes toTop b, (bone changes toTop b).id = (changes.id <|> b.id)
  bone_name : ∀ changes toTop b, (bone changes toTop b).name = changes.name.getD b.name
  cube_id : ∀ changes c, (cube changes c).id = (changes.id <|> c.id)
  cube_name : ∀ changes c, (cube changes c).name = changes.name.getD c.name

namespace Writing

def marks : Writing K where
  bone changes _ b := { b with id := changes.id <|> b.id, name := changes.name.getD b.name }
  cube changes c := { c with id := changes.id <|> c.id, name := changes.name.getD c.name }
  bone_id _ _ _ := rfl
  bone_name _ _ _ := rfl
  cube_id _ _ := rfl
  cube_name _ _ := rfl

def all : Writing K where
  bone := BoneChanges.apply
  cube := CubeChanges.apply
  bone_id _ _ _ := rfl
  bone_name _ _ _ := rfl
  cube_id _ _ := rfl
  cube_name _ _ := rfl

variable (w : Writing K)

def boneAct? (s : Step K) : Option (Act (Live.Bone K)) :=
  match s.op, s.subject with
  | .createBone bone, _ => some (.append bone)
  | .updateBone _ _ changes toTop, .bone _ (some slot) =>
    some (.overwrite slot.index (w.bone changes toTop))
  | .deleteBone _ _, .leftBone slot => some (.remove slot.index)
  | _, _ => none

def cubeAct? (s : Step K) : Option (Act (Live.Cube K)) :=
  match s.op, s.subject with
  | .createCube cube, _ => some (.append cube)
  | .updateCube _ _ changes _, .cube _ (some slot) => some (.overwrite slot.index (w.cube changes))
  | .deleteCube _ _, .leftCube slot => some (.remove slot.index)
  | _, _ => none

def run (p : Progress K) (steps : List (Step K)) : Progress K where
  bones := (steps.filterMap w.boneAct?).foldl Act.carryOut p.bones
  cubes := (steps.filterMap w.cubeAct?).foldl Act.carryOut p.cubes

lemma run_all (p : Progress K) (steps : List (Step K)) : all.run p steps = p.run steps := by
  induction steps generalizing p with
  | nil => rfl
  | cons s steps ih =>
    have hstep : all.run p (s :: steps) = all.run (s.carryOut p) steps := by
      obtain ⟨op, subject⟩ := s
      rcases subject with ⟨bone, _ | slot⟩ | ⟨cube, _ | slot⟩ | slot | slot <;> cases op <;> rfl
    rw [hstep, ih]
    rfl

end Writing

def Progress.toLive (p : Progress K) (revision : Option String) : Live K where
  bones := p.bones.map Tracked.entity
  cubes := p.cubes.map Tracked.entity
  revision := revision

lemma idChange_orElse_cases (compare : Bool) (desired : String) (live : Option String) :
    (idChange compare desired live <|> live) = live ∨
      (idChange compare desired live <|> live) = some desired := by
  cases live with
  | none => exact .inl rfl
  | some id =>
    by_cases h : compare = true ∧ id ≠ desired
    · exact .inr (by simp [idChange, h.1, h.2])
    · exact .inl (by simp [idChange, h])

lemma nameChange_getD_cases (compare : Bool) (desired live : String) :
    (nameChange compare desired live).getD live = live ∨
      (nameChange compare desired live).getD live = desired := by
  by_cases h : compare = true ∧ desired ≠ live
  · exact .inr (by simp [nameChange, h.1, h.2])
  · exact .inl (by simp [nameChange, h])

variable [Scalar K]

lemma Writing.bone_renames (w : Writing K) (bones : Model.Bones K) (all : Bool) (b : Model.Bone K)
    (live : Live.Bone K) :
    Renames b live (w.bone (diffBone bones all b live).1 (diffBone bones all b live).2 live) where
  id := by
    change (w.bone _ _ live).id = live.id ∨ (w.bone _ _ live).id = some b.id
    rw [w.bone_id]
    exact idChange_orElse_cases _ _ _
  name := by
    change (w.bone _ _ live).name = live.name ∨ (w.bone _ _ live).name = b.name
    rw [w.bone_name]
    exact nameChange_getD_cases _ _ _

lemma Writing.cube_renames (w : Writing K) (bones : Model.Bones K) (all : Bool) (c : Model.Cube K)
    (live : Live.Cube K) : Renames c live (w.cube (diffCube bones all c live).1 live) where
  id := by
    change (w.cube _ live).id = live.id ∨ (w.cube _ live).id = some c.id
    rw [w.cube_id]
    exact idChange_orElse_cases _ _ _
  name := by
    change (w.cube _ live).name = live.name ∨ (w.cube _ live).name = c.name
    rw [w.cube_name]
    exact nameChange_getD_cases _ _ _

lemma cubeStep?_update {cube : Model.Cube K} {slot : Slot (Live.Cube K)} {bones : Model.Bones K}
    {all : Bool} {s : Step K} (h : cubeStep? bones all (cube, some slot) = some s) :
    s = ⟨.updateCube slot.entity.id slot.entity.name (diffCube bones all cube slot.entity).1
      (diffCube bones all cube slot.entity).2, .cube cube (some slot)⟩ := by
  obtain ⟨hop, hsubject⟩ := cubeStep?_eq_some.mp h
  simp only [cubeOp?] at hop
  split_ifs at hop
  obtain ⟨op, subject⟩ := s
  obtain rfl := Option.some.inj hop
  obtain rfl := hsubject
  rfl

namespace Writing

variable (w : Writing K)

omit [Scalar K] in
lemma boneAct?_leftBoneStep (slot : Slot (Live.Bone K)) :
    w.boneAct? (leftBoneStep slot) = some (.remove slot.index) := rfl

omit [Scalar K] in
lemma boneAct?_leftCubeStep (slot : Slot (Live.Cube K)) : w.boneAct? (leftCubeStep slot) = none :=
  rfl

omit [Scalar K] in
lemma cubeAct?_leftCubeStep (slot : Slot (Live.Cube K)) :
    w.cubeAct? (leftCubeStep slot) = some (.remove slot.index) := rfl

omit [Scalar K] in
lemma cubeAct?_leftBoneStep (slot : Slot (Live.Bone K)) : w.cubeAct? (leftBoneStep slot) = none :=
  rfl

variable {bones : Model.Bones K} {all : Bool} {s : Step K}

lemma boneAct?_cubeStep {pair : Model.Cube K × Option (Slot (Live.Cube K))}
    (h : cubeStep? bones all pair = some s) : w.boneAct? s = none := by
  obtain ⟨cube, claim⟩ := pair
  cases claim with
  | none =>
    obtain rfl := Option.some.inj h
    rfl
  | some slot =>
    rw [cubeStep?_update h]
    rfl

lemma cubeAct?_boneStep {pair : Model.Bone K × Option (Slot (Live.Bone K))}
    (h : boneStep? bones all pair = some s) : w.cubeAct? s = none := by
  obtain ⟨bone, claim⟩ := pair
  cases claim with
  | none =>
    obtain rfl := Option.some.inj h
    rfl
  | some slot =>
    rw [boneStep?_update h]
    rfl

end Writing

section Setting

variable (w : Writing K) (mode : Mode) (deleteOrphans : Bool) (model : Model K) (live : Live K)

def deletedBones : List (Slot (Live.Bone K)) :=
  if mode = .replace ∧ deleteOrphans then (boneMatching model live).orphans model.bones.toList else []

def deletedCubes : List (Slot (Live.Cube K)) :=
  if mode = .replace ∧ deleteOrphans then (cubeMatching model live).orphans model.cubes.toList else []

lemma boneActs_emitted : (emitted mode deleteOrphans model live).filterMap w.boneAct? =
    enacted (fun pair => (boneStep? model.bones mode.comparesAll pair).bind w.boneAct?)
      (boneMatching model live) (deletedBones mode deleteOrphans model live) := by
  rw [filterMap_emitted_bones (fun _ _ => w.boneAct?_cubeStep) w.boneAct?_leftCubeStep, enacted]
  simp only [w.boneAct?_leftBoneStep, List.filterMap_eq_map']
  rfl

lemma cubeActs_emitted : (emitted mode deleteOrphans model live).filterMap w.cubeAct? =
    enacted (fun pair => (cubeStep? model.bones mode.comparesAll pair).bind w.cubeAct?)
      (cubeMatching model live) (deletedCubes mode deleteOrphans model live) := by
  rw [filterMap_emitted_cubes (fun _ _ => w.cubeAct?_boneStep) w.cubeAct?_leftBoneStep, enacted]
  simp only [w.cubeAct?_leftCubeStep, List.filterMap_eq_map']
  rfl

def enactingBones : Enacting Model.Bone.toLive live.bones model.bones.toList
    (deletedBones mode deleteOrphans model live)
    ((sequence mode deleteOrphans model live).filterMap w.boneAct?) where
  act? pair := (boneStep? model.bones mode.comparesAll pair).bind w.boneAct?
  fits b mark := by cases mark <;> exact beq_self_eq_true _
  create _ := rfl
  update b slot act h := by
    obtain ⟨s, hs, hact⟩ := Option.bind_eq_some_iff.mp h
    rw [boneStep?_update hs] at hact
    exact ⟨_, (Option.some.inj hact).symm, w.bone_renames ..⟩
  removed_sublist := by
    rw [deletedBones]
    split_ifs
    · exact List.filter_sublist
    · exact List.nil_sublist _
  perm := boneActs_emitted w mode deleteOrphans model live ▸ sequence_perm.filterMap _

def enactingCubes : Enacting Model.Cube.toLive live.cubes model.cubes.toList
    (deletedCubes mode deleteOrphans model live)
    ((sequence mode deleteOrphans model live).filterMap w.cubeAct?) where
  act? pair := (cubeStep? model.bones mode.comparesAll pair).bind w.cubeAct?
  fits c mark := by cases mark <;> exact beq_self_eq_true _
  create _ := rfl
  update c slot act h := by
    obtain ⟨s, hs, hact⟩ := Option.bind_eq_some_iff.mp h
    rw [cubeStep?_update hs] at hact
    exact ⟨_, (Option.some.inj hact).symm, w.cube_renames ..⟩
  removed_sublist := by
    rw [deletedCubes]
    split_ifs
    · exact List.filter_sublist
    · exact List.nil_sublist _
  perm := cubeActs_emitted w mode deleteOrphans model live ▸ sequence_perm.filterMap _

end Setting

structure Distinguished (model : Model K) : Prop where
  bones : (model.bones.toList.map Model.Bone.name).Nodup
  cubes : (model.cubes.toList.map Model.Cube.name).Nodup

variable {mode : Mode} {deleteOrphans : Bool} {model : Model K} {live : Live K} {s : Step K}

omit [Scalar K] in
lemma leftSteps_eq_nil
    (hbones : mode = .replace ∧ deleteOrphans = true →
      (boneMatching model live).orphans model.bones.toList = [])
    (hcubes : mode = .replace ∧ deleteOrphans = true →
      (cubeMatching model live).orphans model.cubes.toList = []) :
    leftSteps mode deleteOrphans model live = [] := by
  rw [leftSteps]
  split_ifs with hdelete
  · rw [hbones hdelete, hcubes hdelete]
    simp [leftBoneSteps]
  · rfl

lemma updates_of_claimed (hmode : mode ≠ .create)
    (hbones : ∀ pair ∈ (boneMatching model live).pairs, ∃ slot, pair.2 = some slot)
    (hcubes : ∀ pair ∈ (cubeMatching model live).pairs, ∃ slot, pair.2 = some slot)
    (hleft : leftSteps mode deleteOrphans model live = []) :
    ∃ plan, ofModel mode deleteOrphans model live = .ok plan ∧
      ∀ op ∈ plan.ops, op.kind = .updateBone ∨ op.kind = .updateCube := by
  have hbones' : Mode.check (K := K) mode .bone (boneMatching model live) = .ok () :=
    check_of_claimed hmode fun pair hp => Option.isSome_iff_exists.mpr (hbones pair hp)
  have hcubes' : Mode.check (K := K) mode .cube (cubeMatching model live) = .ok () :=
    check_of_claimed hmode fun pair hp => Option.isSome_iff_exists.mpr (hcubes pair hp)
  refine ⟨_, ofModel_ok.mpr ⟨hbones', hcubes', rfl⟩, fun op hop => ?_⟩
  rw [← sequence_map_op, sequence, hleft, List.append_nil] at hop
  obtain ⟨s, hs, rfl⟩ := List.mem_map.mp hop
  rcases mem_desiredSteps hs with ⟨⟨bone, claim⟩, hp, hs⟩ | ⟨⟨cube, claim⟩, hp, hs⟩
  · obtain ⟨slot, rfl⟩ := hbones _ hp
    rw [boneStep?_update hs]
    exact .inl rfl
  · obtain ⟨slot, rfl⟩ := hcubes _ hp
    rw [cubeStep?_update hs]
    exact .inr rfl

/-- What becomes of a live model when the plan for it is carried out. -/
def Writing.successor (w : Writing K) (mode : Mode) (deleteOrphans : Bool) (model : Model K)
    (live : Live K) : Progress K :=
  w.run (Progress.start live) (sequence mode deleteOrphans model live)

/-- The same model, planned again, stands for the same live entities and only updates them. -/
structure Replanned (mode : Mode) (deleteOrphans : Bool) (model : Model K) (live : Live K)
    (next : Progress K) (revision : Option String) : Prop where
  bones : Rematched Model.Bone.toLive next.bones (boneMatching model live)
    (boneMatching model (next.toLive revision))
  cubes : Rematched Model.Cube.toLive next.cubes (cubeMatching model live)
    (cubeMatching model (next.toLive revision))
  updates : ∃ plan, ofModel mode deleteOrphans model (next.toLive revision) = .ok plan ∧
    ∀ op ∈ plan.ops, op.kind = .updateBone ∨ op.kind = .updateCube

/-- After a plan was carried out, in whatever way beyond ids and names, planning again finds every
desired entity in the live one that it claimed or that was made for it, and neither creates nor
deletes. -/
theorem ofModel_replanned {plan : Plan K} (w : Writing K) (hmodel : Distinguished model)
    (hmode : mode ≠ .create) (hplan : ofModel mode deleteOrphans model live = .ok plan) :
    (sequence mode deleteOrphans model live).map Step.op = plan.ops ∧
      ∀ revision, Replanned mode deleteOrphans model live
        (w.successor mode deleteOrphans model live) revision := by
  obtain ⟨-, -, rfl⟩ := ofModel_ok.mp hplan
  refine ⟨sequence_map_op .., fun revision => ?_⟩
  have hbones : Apart model.bones.toList := ⟨model.bones.nodup, hmodel.bones⟩
  have hcubes : Apart model.cubes.toList := ⟨model.cubes.nodup, hmodel.cubes⟩
  have enactBones := enactingBones w mode deleteOrphans model live
  have enactCubes := enactingCubes w mode deleteOrphans model live
  have rematchBones := enactBones.rematched hbones
  have rematchCubes := enactCubes.rematched hcubes
  refine ⟨rematchBones, rematchCubes, updates_of_claimed hmode ?_ ?_ (leftSteps_eq_nil ?_ ?_)⟩
  · intro pair hp
    exact rematchBones.claimed hbones hp
  · intro pair hp
    exact rematchCubes.claimed hcubes hp
  · intro hdelete
    apply enactBones.no_orphans hbones
    rw [deletedBones, if_pos hdelete]
    exact List.Subset.refl _
  · intro hdelete
    apply enactCubes.no_orphans hcubes
    rw [deletedCubes, if_pos hdelete]
    exact List.Subset.refl _

def twinBones : Live Float where
  bones := [Live.Bone.named "tail", { Live.Bone.named "tail" with id := some "body" },
    { Live.Bone.named "twin" with id := some "body" },
    { Live.Bone.named "stray" with id := some "stray" }]

theorem ofModel_replanned_critter :
    ∃ m, Model.ofSpec .standard (Spec.critter : Spec Float) = .ok m ∧ Distinguished m ∧
      ∃ plan, ofModel .replace true m twinBones = .ok plan ∧
        (sequence .replace true m twinBones).map Step.op = plan.ops ∧
          ∀ revision, Replanned .replace true m twinBones
            (Writing.marks.successor .replace true m twinBones) revision := by
  obtain ⟨m, hm⟩ : ∃ m, Model.ofSpec .standard (Spec.critter : Spec Float) = .ok m :=
    Attempts.exists_ok (by decide +kernel)
  obtain ⟨plan, hplan⟩ : ∃ plan, ofModel .replace true m twinBones = .ok plan :=
    ⟨_, ofModel_ok.mpr ⟨rfl, rfl, rfl⟩⟩
  have hdistinguished : Distinguished m := ⟨(Model.sound_bones hm).names, (Model.sound_cubes hm).names⟩
  exact ⟨m, hm, hdistinguished, plan, hplan,
    ofModel_replanned Writing.marks hdistinguished (by decide) hplan⟩

end Armature.Plan
