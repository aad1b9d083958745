import Armature.Proofs.Sequencing

/-! Carrying out a plan step by step. The entities of the snapshot are followed by their positions, so
that a step finds the one it was made for, whatever became of its id and its name. -/

namespace Armature.Plan

section Effects

variable {K : Type}

def BoneChanges.apply (changes : BoneChanges K) (toTop : Bool) (bone : Live.Bone K) : Live.Bone K where
  id := changes.id <|> bone.id
  name := changes.name.getD bone.name
  parent := if toTop then none else changes.parent <|> bone.parent
  pivot := changes.pivot.getD bone.pivot
  rotation := changes.rotation.getD bone.rotation
  scale := changes.scale.getD bone.scale
  visibility := changes.visibility <|> bone.visibility

def CubeChanges.apply (changes : CubeChanges K) (cube : Live.Cube K) : Live.Cube K where
  id := changes.id <|> cube.id
  name := changes.name.getD cube.name
  parent := changes.parent <|> cube.parent
  lower := changes.lower.getD cube.lower
  upper := changes.upper.getD cube.upper
  origin := changes.origin <|> cube.origin
  rotation := changes.rotation.getD cube.rotation
  inflate := changes.inflate <|> cube.inflate
  mirror := changes.mirror <|> cube.mirror
  visibility := changes.visibility <|> cube.visibility
  boxUv := changes.boxUv <|> cube.boxUv
  uvOffset := changes.uvOffset <|> cube.uvOffset

lemma BoneChanges.apply_of_isEmpty {changes : BoneChanges K} (h : changes.isEmpty = true)
    (bone : Live.Bone K) : changes.apply false bone = bone := by
  simp only [isEmpty, Bool.and_eq_true, Option.isNone_iff_eq_none] at h
  obtain ⟨⟨⟨⟨⟨⟨hid, hname⟩, hparent⟩, hpivot⟩, hrotation⟩, hscale⟩, hvisibility⟩ := h
  simp [apply, hid, hname, hparent, hpivot, hrotation, hscale, hvisibility]

lemma CubeChanges.apply_of_isEmpty {changes : CubeChanges K} (h : changes.isEmpty = true)
    (cube : Live.Cube K) : changes.apply cube = cube := by
  simp only [isEmpty, Bool.and_eq_true, Option.isNone_iff_eq_none] at h
  obtain ⟨⟨⟨⟨⟨⟨⟨⟨⟨⟨⟨hid, hname⟩, hparent⟩, hlower⟩, hupper⟩, horigin⟩, hrotation⟩, hinflate⟩, hmirror⟩,
    hvisibility⟩, hboxUv⟩, huvOffset⟩ := h
  simp [apply, hid, hname, hparent, hlower, hupper, horigin, hrotation, hinflate, hmirror,
    hvisibility, hboxUv, huvOffset]

/-- An entity of a live model that is on the way to the desired one. -/
structure Tracked (β : Type) where
  /-- The position in the snapshot. What was created since has none. -/
  origin : Option ℕ
  entity : β

def Tracked.overwrite {β : Type} (index : ℕ) (change : β → β) (t : Tracked β) : Tracked β :=
  if t.origin = some index then { t with entity := change t.entity } else t

def track {β : Type} (live : List β) : List (Tracked β) :=
  (slots live).map fun slot => ⟨some slot.index, slot.entity⟩

structure Progress (K : Type) where
  bones : List (Tracked (Live.Bone K))
  cubes : List (Tracked (Live.Cube K))

def Progress.start (live : Live K) : Progress K := ⟨track live.bones, track live.cubes⟩

/-- What becomes of a live model by one step: what is created comes last, an update overwrites the
attributes that it lists, and a deletion removes the entity it was made for. -/
def Step.carryOut (p : Progress K) (s : Step K) : Progress K :=
  match s.op, s.subject with
  | .createBone bone, _ => { p with bones := p.bones ++ [⟨none, bone⟩] }
  | .updateBone _ _ changes toTop, .bone _ (some slot) =>
    { p with bones := p.bones.map (Tracked.overwrite slot.index (changes.apply toTop)) }
  | .deleteBone _ _, .leftBone slot =>
    { p with bones := p.bones.filter (·.origin ≠ some slot.index) }
  | .createCube cube, _ => { p with cubes := p.cubes ++ [⟨none, cube⟩] }
  | .updateCube _ _ changes _, .cube _ (some slot) =>
    { p with cubes := p.cubes.map (Tracked.overwrite slot.index changes.apply) }
  | .deleteCube _ _, .leftCube slot =>
    { p with cubes := p.cubes.filter (·.origin ≠ some slot.index) }
  | _, _ => p

def Progress.run (p : Progress K) (steps : List (Step K)) : Progress K := steps.foldl Step.carryOut p

def Step.bonePosition? (s : Step K) : Option ℕ :=
  match s.subject with
  | .bone _ (some slot) => some slot.index
  | .leftBone slot => some slot.index
  | _ => none

@[simp] lemma bonePosition?_leftBoneStep (slot : Slot (Live.Bone K)) :
    (leftBoneStep slot).bonePosition? = some slot.index := rfl

@[simp] lemma bonePosition?_leftCubeStep (slot : Slot (Live.Cube K)) :
    (leftCubeStep slot).bonePosition? = none := rfl

variable {p : Progress K} {s : Step K} {t : Tracked (Live.Bone K)} {steps : List (Step K)}

lemma run_append_cons (before after : List (Step K)) :
    p.run (before ++ s :: after) = (s.carryOut (p.run before)).run after :=
  List.foldl_append

lemma mem_carryOut (ht : t ∈ p.bones) (h : ∀ index ∈ s.bonePosition?, t.origin ≠ some index) :
    t ∈ (s.carryOut p).bones := by
  obtain ⟨op, subject⟩ := s
  unfold Step.carryOut
  split
  · exact List.mem_append_left _ ht
  · next slot _ hsubject =>
    obtain rfl := hsubject
    exact List.mem_map.mpr ⟨t, ht, if_neg (h slot.index rfl)⟩
  · next slot _ hsubject =>
    obtain rfl := hsubject
    exact List.mem_filter.mpr ⟨ht, decide_eq_true (h slot.index rfl)⟩
  all_goals exact ht

lemma mem_run (ht : t ∈ p.bones)
    (h : ∀ index ∈ steps.filterMap Step.bonePosition?, t.origin ≠ some index) :
    t ∈ (p.run steps).bones := by
  induction steps generalizing p with
  | nil => exact ht
  | cons s steps ih =>
    refine ih (mem_carryOut ht fun index hi => ?_) fun index hi => ?_
    · exact h index (List.mem_filterMap.mpr ⟨s, List.mem_cons_self, hi⟩)
    · exact h index (List.mem_filterMap.mpr (by
        obtain ⟨u, hu, hui⟩ := List.mem_filterMap.mp hi
        exact ⟨u, List.mem_cons_of_mem _ hu, hui⟩))

lemma origin_overwrite {β : Type} (index : ℕ) (change : β → β) (t : Tracked β) :
    (t.overwrite index change).origin = t.origin := by
  unfold Tracked.overwrite
  split_ifs <;> rfl

lemma origins_carryOut : ((s.carryOut p).bones.filterMap Tracked.origin).Sublist
    (p.bones.filterMap Tracked.origin) := by
  unfold Step.carryOut
  split
  · simp
  · rw [List.filterMap_map]
    exact (List.filterMap_congr fun t _ => origin_overwrite _ _ t) ▸ .refl _
  · exact List.filter_sublist.filterMap _
  all_goals exact .refl _

lemma origins_run : ((p.run steps).bones.filterMap Tracked.origin).Sublist
    (p.bones.filterMap Tracked.origin) := by
  induction steps generalizing p with
  | nil => exact .refl _
  | cons s steps ih => exact ih.trans origins_carryOut

lemma origins_nodup (live : Live K) (steps : List (Step K)) :
    (((Progress.start live).run steps).bones.filterMap Tracked.origin).Nodup := by
  refine .sublist origins_run ?_
  have horigin : ∀ slot : Slot (Live.Bone K),
      (⟨some slot.index, slot.entity⟩ : Tracked (Live.Bone K)).origin = some slot.index :=
    fun _ => rfl
  rw [Progress.start, track, filterMap_map_some horigin]
  exact slots_distinct live.bones

lemma mem_start {live : Live K} {slot : Slot (Live.Bone K)} (h : slot ∈ slots live.bones) :
    ⟨some slot.index, slot.entity⟩ ∈ (Progress.start live).bones :=
  List.mem_map_of_mem h

lemma created_mem_run {live : Live K} {bone : Model.Bone K} {steps : List (Step K)}
    (h : (⟨.createBone bone.toLive, .bone bone none⟩ : Step K) ∈ steps) :
    ⟨none, bone.toLive⟩ ∈ ((Progress.start live).run steps).bones := by
  obtain ⟨before, after, rfl⟩ := List.append_of_mem h
  rw [run_append_cons]
  exact mem_run (List.mem_append_right _ (List.mem_singleton_self _)) fun _ _ => nofun

lemma untouched_mem_run {live : Live K} {slot : Slot (Live.Bone K)} {steps : List (Step K)}
    (hslot : slot ∈ slots live.bones) (h : slot.index ∉ steps.filterMap Step.bonePosition?) :
    ⟨some slot.index, slot.entity⟩ ∈ ((Progress.start live).run steps).bones := by
  refine mem_run (mem_start hslot) fun index hi horigin => ?_
  obtain rfl := Option.some.inj horigin
  exact h hi

end Effects

variable {K : Type} [Scalar K] {mode : Mode} {deleteOrphans : Bool} {model : Model K}
  {live : Live K} {s : Step K} {pair : Model.Bone K × Option (Slot (Live.Bone K))}

lemma bonePosition?_boneStep {bones : Model.Bones K} {all : Bool}
    (h : boneStep? bones all pair = some s) : s.bonePosition? = pair.2.map Slot.index := by
  rw [Step.bonePosition?, (boneStep?_eq_some.mp h).2]
  cases pair.2 <;> rfl

lemma bonePosition?_cubeStep {bones : Model.Bones K} {all : Bool}
    {pair : Model.Cube K × Option (Slot (Live.Cube K))} (h : cubeStep? bones all pair = some s) :
    s.bonePosition? = none := by
  rw [Step.bonePosition?, (cubeStep?_eq_some.mp h).2]

lemma mem_sequence_of_boneStep (hp : pair ∈ (boneMatching model live).pairs)
    (h : boneStep? model.bones mode.comparesAll pair = some s) :
    s ∈ sequence mode deleteOrphans model live := by
  refine sequence_perm.mem_iff.mpr ?_
  exact List.mem_append_left _ (List.mem_append_left _ (List.mem_filterMap.mpr ⟨pair, hp, h⟩))

lemma mem_sequence_of_cubeStep {pair : Model.Cube K × Option (Slot (Live.Cube K))}
    (hp : pair ∈ (cubeMatching model live).pairs)
    (h : cubeStep? model.bones mode.comparesAll pair = some s) :
    s ∈ sequence mode deleteOrphans model live := by
  refine sequence_perm.mem_iff.mpr ?_
  exact List.mem_append_left _ (List.mem_append_right _ (List.mem_filterMap.mpr ⟨pair, hp, h⟩))

lemma boneStep_of_position {slot : Slot (Live.Bone K)} (hp : pair ∈ (boneMatching model live).pairs)
    (hslot : pair.2 = some slot) (hs : s ∈ sequence mode deleteOrphans model live)
    (hposition : s.bonePosition? = some slot.index) :
    boneStep? model.bones mode.comparesAll pair = some s := by
  have hdistinct := slots_distinct live.bones
  rcases List.mem_append.mp hs with hs | hs
  · rcases mem_desiredSteps hs with ⟨other, ho, hs⟩ | ⟨_, -, hs⟩
    · rw [bonePosition?_boneStep hs] at hposition
      obtain ⟨t, ht, hindex⟩ := Option.map_eq_some_iff.mp hposition
      rwa [claim_unique hdistinct hp ho hslot ht hindex.symm]
    · rw [bonePosition?_cubeStep hs] at hposition
      cases hposition
  · rcases mem_leftSteps hs with ⟨_, -, rfl⟩ | ⟨t, ht, rfl⟩
    · cases hposition
    · have hfree := (List.mem_filter.mp ht).1
      exact (claim_ne_free hdistinct hp hslot hfree (Option.some.inj hposition).symm).elim

lemma sequence_positions_nodup :
    ((sequence mode deleteOrphans model live).filterMap Step.bonePosition?).Nodup := by
  refine (sequence_perm.filterMap _).nodup_iff.mpr ?_
  rw [filterMap_emitted_bones (fun _ _ => bonePosition?_cubeStep) bonePosition?_leftCubeStep]
  refine (matchUp_distinct (slots_distinct live.bones) model.bones.toList).sublist ?_
  rw [List.map_append]
  refine List.Sublist.append ?_ ?_
  · rw [Matching.claimed, List.map_filterMap]
    refine filterMap_sublist_filterMap fun pair _ index h => ?_
    obtain ⟨s, hs, hindex⟩ := Option.bind_eq_some_iff.mp h
    exact (bonePosition?_boneStep hs).symm.trans hindex
  · simp only [bonePosition?_leftBoneStep, List.filterMap_eq_map']
    split_ifs
    · exact List.filter_sublist.map _
    · exact List.nil_sublist _

def settledBone (bones : Model.Bones K) (all : Bool) :
    Model.Bone K × Option (Slot (Live.Bone K)) → Live.Bone K
  | (bone, none) => bone.toLive
  | (bone, some slot) =>
    (diffBone bones all bone slot.entity).1.apply (diffBone bones all bone slot.entity).2 slot.entity

lemma settledBone_of_no_step {bone : Model.Bone K} {slot : Slot (Live.Bone K)}
    {bones : Model.Bones K} {all : Bool} (h : boneStep? bones all (bone, some slot) = none) :
    settledBone bones all (bone, some slot) = slot.entity := by
  rw [boneStep?, Option.map_eq_none_iff] at h
  simp only [boneOp?] at h
  split_ifs at h with hempty
  simp only [Bool.and_eq_true, Bool.not_eq_true'] at hempty
  rw [settledBone, hempty.2]
  exact BoneChanges.apply_of_isEmpty hempty.1 slot.entity

def settledCube (bones : Model.Bones K) (all : Bool) :
    Model.Cube K × Option (Slot (Live.Cube K)) → Live.Cube K
  | (cube, none) => cube.toLive
  | (cube, some slot) => (diffCube bones all cube slot.entity).1.apply slot.entity

lemma settledCube_of_no_step {cube : Model.Cube K} {slot : Slot (Live.Cube K)}
    {bones : Model.Bones K} {all : Bool} (h : cubeStep? bones all (cube, some slot) = none) :
    settledCube bones all (cube, some slot) = slot.entity := by
  rw [cubeStep?, Option.map_eq_none_iff] at h
  simp only [cubeOp?] at h
  split_ifs at h with hempty
  exact CubeChanges.apply_of_isEmpty hempty slot.entity

lemma boneStep?_update {bone : Model.Bone K} {slot : Slot (Live.Bone K)} {bones : Model.Bones K}
    {all : Bool} (h : boneStep? bones all (bone, some slot) = some s) :
    s = ⟨.updateBone slot.entity.id slot.entity.name (diffBone bones all bone slot.entity).1
      (diffBone bones all bone slot.entity).2, .bone bone (some slot)⟩ := by
  obtain ⟨hop, hsubject⟩ := boneStep?_eq_some.mp h
  simp only [boneOp?] at hop
  split_ifs at hop
  obtain ⟨op, subject⟩ := s
  obtain rfl := Option.some.inj hop
  obtain rfl := hsubject
  rfl

lemma updated_mem_run {bone : Model.Bone K} {slot : Slot (Live.Bone K)} {bones : Model.Bones K}
    {all : Bool} {before after : List (Step K)} (hslot : slot ∈ slots live.bones)
    (hstep : boneStep? bones all (bone, some slot) = some s)
    (hnodup : ((before ++ s :: after).filterMap Step.bonePosition?).Nodup) :
    ⟨some slot.index, settledBone bones all (bone, some slot)⟩ ∈
      ((Progress.start live).run (before ++ s :: after)).bones := by
  -- the step is the only one that works on the bone, and comes once
  have hposition : s.bonePosition? = some slot.index := bonePosition?_boneStep hstep
  rw [List.filterMap_append, List.filterMap_cons_some hposition] at hnodup
  obtain ⟨-, hafter, hbefore⟩ := List.nodup_append.mp hnodup
  have hstart : ⟨some slot.index, slot.entity⟩ ∈ ((Progress.start live).run before).bones :=
    untouched_mem_run hslot fun hi => hbefore _ hi _ List.mem_cons_self rfl
  rw [run_append_cons]
  refine mem_run ?_ fun index hi horigin => ?_
  · rw [boneStep?_update hstep]
    exact List.mem_map.mpr ⟨_, hstart, if_pos rfl⟩
  · obtain rfl := Option.some.inj horigin
    exact (List.nodup_cons.mp hafter).1 hi

lemma settledBone_mem_run {done rest : List (Step K)}
    (hp : pair ∈ (boneMatching model live).pairs)
    (hsplit : sequence mode deleteOrphans model live = done ++ rest)
    (hdone : ∀ u, boneStep? model.bones mode.comparesAll pair = some u → u ∈ done) :
    ⟨pair.2.map Slot.index, settledBone model.bones mode.comparesAll pair⟩ ∈
      ((Progress.start live).run done).bones := by
  obtain ⟨bone, claim⟩ := pair
  cases claim with
  | none => exact created_mem_run (hdone _ rfl)
  | some slot =>
    have hslot : slot ∈ slots live.bones := mem_free_of_claim (slots_distinct _) hp rfl
    cases hstep : boneStep? model.bones mode.comparesAll (bone, some slot) with
    | none =>
      -- no step works on the bone, which is as desired from the start
      rw [settledBone_of_no_step hstep]
      refine untouched_mem_run hslot fun hi => ?_
      obtain ⟨u, hu, hposition⟩ := List.mem_filterMap.mp hi
      have hsub : u ∈ sequence mode deleteOrphans model live :=
        hsplit ▸ List.mem_append_left _ hu
      cases hstep.symm.trans (boneStep_of_position hp rfl hsub hposition)
    | some u =>
      have hnodup : ((sequence mode deleteOrphans model live).filterMap Step.bonePosition?).Nodup :=
        sequence_positions_nodup
      rw [hsplit, List.filterMap_append] at hnodup
      obtain ⟨before, after, rfl⟩ := List.append_of_mem (hdone u hstep)
      exact updated_mem_run hslot hstep hnodup.of_append_left

end Armature.Plan
