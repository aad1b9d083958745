import Armature.Proofs.CarryingOut

/-! Parent references in a plan. They give the desired id of the parent, and so the bone that stands
for the parent has to bear it by then. One that was claimed by its name alone need not: it goes on
without an id if it has none, and an id that the caller did not set does not replace another one. -/

namespace Armature.Plan

open Relation

variable {K : Type}

def Op.parent? : Op K → Option String
  | .createBone bone => bone.parent
  | .updateBone _ _ changes _ => changes.parent
  | .createCube cube => cube.parent
  | .updateCube _ _ changes _ => changes.parent
  | .deleteBone .. | .deleteCube .. => none

def Names (reference : String) (bone : Live.Bone K) : Prop :=
  bone.id = some reference ∨ bone.name = reference

instance (reference : String) (bone : Live.Bone K) : Decidable (Names reference bone) :=
  inferInstanceAs (Decidable (_ ∨ _))

/-- The bone that comes to stand for a desired one bears its id: it is created, or has that id or gets
it in place of another one, or else the id is also its name. -/
def Keyed (all : Bool) : Model.Bone K × Option (Slot (Live.Bone K)) → Prop
  | (_, none) => True
  | (bone, some slot) => slot.entity.id = some bone.id ∨ bone.name = bone.id ∨
      slot.entity.id.isSome ∧ (all || bone.explicit.id)

lemma idChange_orElse {compare : Bool} {desired : String} {live : Option String} :
    (idChange compare desired live <|> live) = some desired ↔
      live = some desired ∨ live.isSome ∧ compare := by
  cases live with
  | none => simp [idChange]
  | some id => cases compare <;> by_cases h : id = desired <;> simp [idChange, h]

lemma nameChange_getD {compare : Bool} {desired : String} :
    (nameChange compare desired desired).getD desired = desired := by
  simp [nameChange]

variable [Scalar K]

lemma names_settledBone {model : Model K} {live : Live K} {all : Bool}
    {pair : Model.Bone K × Option (Slot (Live.Bone K))}
    (hp : pair ∈ (boneMatching model live).pairs) :
    Names pair.1.id (settledBone model.bones all pair) ↔ Keyed all pair := by
  obtain ⟨bone, claim⟩ := pair
  cases claim with
  | none => exact iff_of_true (.inl rfl) trivial
  | some slot =>
    have hid : (settledBone model.bones all (bone, some slot)).id = some bone.id ↔
        slot.entity.id = some bone.id ∨ slot.entity.id.isSome ∧ (all || bone.explicit.id) :=
      idChange_orElse
    rcases matchUp_answers hp with ha | ha
    · exact iff_of_true (.inl (hid.mpr (.inl ha))) (.inl ha)
    · have hname : (settledBone model.bones all (bone, some slot)).name = bone.name := by
        have ha' : slot.entity.name = bone.name := ha
        simp only [settledBone, BoneChanges.apply, diffBone, ha', nameChange_getD]
      rw [Names, hid, hname, Keyed, or_assoc, or_comm (b := bone.name = bone.id)]

section Setting

variable {mode : Mode} {deleteOrphans : Bool} {model : Model K} {live : Live K} {s : Step K}
  {reference : String}

lemma boneOp?_parent {bones : Model.Bones K} {all : Bool}
    {pair : Model.Bone K × Option (Slot (Live.Bone K))} {op : Op K}
    (h : boneOp? bones all pair = some op) (hr : op.parent? = some reference) :
    pair.1.parent = some reference := by
  obtain ⟨bone, claim⟩ := pair
  cases claim with
  | none =>
    obtain rfl := Option.some.inj h
    exact hr
  | some slot =>
    simp only [boneOp?] at h
    split_ifs at h
    obtain rfl := Option.some.inj h
    exact (Option.filter_eq_some_iff.mp hr).1

lemma cubeOp?_parent {bones : Model.Bones K} {all : Bool}
    {pair : Model.Cube K × Option (Slot (Live.Cube K))} {op : Op K}
    (h : cubeOp? bones all pair = some op) (hr : op.parent? = some reference) :
    pair.1.parent = reference := by
  obtain ⟨cube, claim⟩ := pair
  cases claim with
  | none =>
    obtain rfl := Option.some.inj h
    exact Option.some.inj hr
  | some slot =>
    simp only [cubeOp?] at h
    split_ifs at h
    obtain rfl := Option.some.inj h
    simp only [Op.parent?, diffCube] at hr
    split_ifs at hr
    exact Option.some.inj hr

lemma parent?_sequence (hs : s ∈ sequence mode deleteOrphans model live)
    (hr : s.op.parent? = some reference) :
    (∃ bone ∈ s.bone?, bone ∈ model.bones.toList ∧ bone.parent = some reference) ∨
      0 < s.kind.group ∧ ∃ cube ∈ model.cubes.toList, cube.parent = reference := by
  rcases List.mem_append.mp hs with hs | hs
  · rcases mem_desiredSteps hs with ⟨pair, hp, hs⟩ | ⟨pair, hp, hs⟩
    · exact .inl ⟨pair.1, boneStep?_bone? hs, mem_of_pair hp,
        boneOp?_parent (boneStep?_eq_some.mp hs).1 hr⟩
    · refine .inr ⟨?_, pair.1, mem_of_pair hp, cubeOp?_parent (cubeStep?_eq_some.mp hs).1 hr⟩
      rcases cubeStep?_kind hs with hkind | hkind <;> rw [hkind] <;> decide
  · rcases mem_leftSteps hs with ⟨_, -, rfl⟩ | ⟨_, -, rfl⟩ <;> cases hr

lemma keyed_of_names {done : List (Step K)} {pair : Model.Bone K × Option (Slot (Live.Bone K))}
    {all : Bool} {t : Tracked (Live.Bone K)} (hp : pair ∈ (boneMatching model live).pairs)
    (hsettled : ⟨pair.2.map Slot.index, settledBone model.bones all pair⟩ ∈
      ((Progress.start live).run done).bones)
    (ht : t ∈ ((Progress.start live).run done).bones) (horigin : t.origin = pair.2.map Slot.index)
    (hnames : Names pair.1.id t.entity) : Keyed all pair := by
  obtain ⟨bone, claim⟩ := pair
  cases claim with
  | none => trivial
  | some slot =>
    -- what is at the position of the parent is what has become of it
    obtain rfl := eq_of_filterMap_nodup (origins_nodup live done) ht hsettled horigin rfl
    exact (names_settledBone hp).mp hnames

lemma boneStep_mem_done {limits : Limits} (hbones : Model.SoundBones limits model.bones)
    {done rest : List (Step K)} {pair : Model.Bone K × Option (Slot (Live.Bone K))} {u : Step K}
    (hsplit : sequence mode deleteOrphans model live = done ++ s :: rest)
    (hr : s.op.parent? = some pair.1.id) (hp : pair ∈ (boneMatching model live).pairs)
    (hu : boneStep? model.bones mode.comparesAll pair = some u) : u ∈ done := by
  have hseq : Sequenced mode deleteOrphans model live (sequence mode deleteOrphans model live) :=
    sequence_sequenced hbones
  have hmem : u ∈ sequence mode deleteOrphans model live := mem_sequence_of_boneStep hp hu
  obtain ⟨i, hi⟩ := List.mem_iff_getElem?.mp hmem
  have hs : (sequence mode deleteOrphans model live)[done.length]? = some s := by
    rw [hsplit, List.getElem?_append_right le_rfl, Nat.sub_self]
    rfl
  have hlt : i < done.length := by
    rcases parent?_sequence (List.mem_of_getElem? hs) hr with ⟨bone, hbone, hm, hparent⟩ | ⟨hgroup, -⟩
    · exact hseq.parentsFirst hi hs
        ⟨pair.1, boneStep?_bone? hu, bone, hbone, .single ⟨bone, hm, rfl, hparent⟩⟩
    · exact hseq.groups hi hs ((boneStep?_group hu).trans_lt hgroup)
  rw [hsplit, List.getElem?_append_left hlt] at hi
  exact List.mem_of_getElem? hi

end Setting

/-- A parent reference names a bone that is there at the time exactly if the bone that stands for the
parent is keyed, or else another bone happens to bear the id of the parent. -/
theorem parent_present_iff {limits : Limits} {spec : Spec K} {mode : Mode} {deleteOrphans : Bool}
    {model : Model K} {live : Live K} {plan : Plan K}
    (hmodel : Model.ofSpec limits spec = .ok model)
    (hplan : ofModel mode deleteOrphans model live = .ok plan) :
    (sequence mode deleteOrphans model live).map Step.op = plan.ops ∧
      ∀ done s rest reference, sequence mode deleteOrphans model live = done ++ s :: rest →
        s.op.parent? = some reference →
          ∃ pair ∈ (boneMatching model live).pairs, pair.1.id = reference ∧
            ((∃ t ∈ ((Progress.start live).run done).bones, Names reference t.entity) ↔
              Keyed mode.comparesAll pair ∨ ∃ t ∈ ((Progress.start live).run done).bones,
                t.origin ≠ pair.2.map Slot.index ∧ Names reference t.entity) := by
  have hbones := Model.sound_bones hmodel
  have hcubes := Model.sound_cubes hmodel
  obtain ⟨-, -, rfl⟩ := ofModel_ok.mp hplan
  refine ⟨sequence_map_op .., fun done s rest reference hsplit hr => ?_⟩
  have hs : s ∈ sequence mode deleteOrphans model live := by
    rw [hsplit]
    exact List.mem_append_right _ List.mem_cons_self
  have hknown : reference ∈ model.bones.ids := by
    rcases parent?_sequence hs hr with ⟨bone, -, hm, hparent⟩ | ⟨-, cube, hm, rfl⟩
    · exact hbones.parents bone hm reference hparent
    · exact hcubes.parents cube hm
  obtain ⟨bone, hbone, rfl⟩ := Roster.mem_ids.mp hknown
  rw [← matchUp_pairs_fst (slots live.bones) model.bones.toList] at hbone
  obtain ⟨pair, hp, rfl⟩ := List.mem_map.mp hbone
  have hsettled := settledBone_mem_run hp hsplit fun u hu => boneStep_mem_done hbones hsplit hr hp hu
  refine ⟨pair, hp, rfl, ?_, ?_⟩
  · rintro ⟨t, ht, hnames⟩
    by_cases horigin : t.origin = pair.2.map Slot.index
    · exact .inl (keyed_of_names hp hsettled ht horigin hnames)
    · exact .inr ⟨t, ht, horigin, hnames⟩
  · rintro (hkeyed | ⟨t, ht, -, hnames⟩)
    · exact ⟨_, hsettled, (names_settledBone hp).mpr hkeyed⟩
    · exact ⟨t, ht, hnames⟩

def armSpec : Spec Float where
  bones := [{ id := some "arm", name := some "Arm" }, { id := some "hand", parent := some "arm" }]
  policy := { enforceRoot := false }

def armLive : Live Float where
  bones := [Live.Bone.named "Arm"]

/-- The hand is created below a bone "arm", but the live arm has no id, and gets none. -/
theorem parent_missing : ∃ model plan done s rest reference,
    Model.ofSpec .standard armSpec = .ok model ∧ ofModel .merge false model armLive = .ok plan ∧
      (∀ bone ∈ armLive.bones, ∀ r ∈ bone.parent, (resolve? armLive.bones r).isSome) ∧
      (∀ cube ∈ armLive.cubes, ∀ r ∈ cube.parent, (resolve? armLive.bones r).isSome) ∧
      (sequence .merge false model armLive).map Step.op = plan.ops ∧
      sequence .merge false model armLive = done ++ s :: rest ∧ s.op.parent? = some reference ∧
        ¬ ∃ t ∈ ((Progress.start armLive).run done).bones, Names reference t.entity := by
  obtain ⟨model, hm⟩ : ∃ model, Model.ofSpec .standard armSpec = .ok model :=
    Attempts.exists_ok (by decide +kernel)
  have hparents : (sequence .merge false model armLive).map (·.op.parent?) = [some "arm"] := by
    have hall : (Model.ofSpec .standard armSpec).toOption.all (fun model =>
        (sequence .merge false model armLive).map (·.op.parent?) = [some "arm"]) = true := by
      decide +kernel
    rw [hm] at hall
    exact of_decide_eq_true hall
  obtain ⟨s, hs, hr⟩ := List.map_eq_singleton_iff.mp hparents
  exact ⟨model, _, [], s, [], "arm", hm, ofModel_ok.mpr ⟨rfl, rfl, rfl⟩, by decide, by decide,
    sequence_map_op .., hs, hr, by decide⟩

theorem parent_present_iff_arm : ∃ model plan, Model.ofSpec .standard armSpec = .ok model ∧
    ofModel .merge false model armLive = .ok plan ∧
      (sequence .merge false model armLive).map Step.op = plan.ops ∧
        ∀ done s rest reference, sequence .merge false model armLive = done ++ s :: rest →
          s.op.parent? = some reference →
            ∃ pair ∈ (boneMatching model armLive).pairs, pair.1.id = reference ∧
              ((∃ t ∈ ((Progress.start armLive).run done).bones, Names reference t.entity) ↔
                Keyed Mode.merge.comparesAll pair ∨
                  ∃ t ∈ ((Progress.start armLive).run done).bones,
                    t.origin ≠ pair.2.map Slot.index ∧ Names reference t.entity) := by
  obtain ⟨model, hm⟩ : ∃ model, Model.ofSpec .standard armSpec = .ok model :=
    Attempts.exists_ok (by decide +kernel)
  obtain ⟨plan, hplan⟩ : ∃ plan, ofModel .merge false model armLive = .ok plan :=
    ⟨_, ofModel_ok.mpr ⟨rfl, rfl, rfl⟩⟩
  exact ⟨model, plan, hm, hplan, parent_present_iff hm hplan⟩

end Armature.Plan
