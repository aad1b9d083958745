import Armature.Model.OfSpec
import Armature.Proofs.Nearness
import Armature.Proofs.Planning
import Armature.Spec.Critter

/-! A live model that has become what the model describes needs no more operations. Every desired
entity claims its own copy, since an id counts before a name, and a copy differs in no attribute. -/

namespace Armature

namespace Model

variable {K : Type} [Scalar K]

def Bone.isFinite (b : Bone K) : Bool :=
  b.pivot.isFinite && b.rotation.isFinite && b.scale.isFinite

def Cube.isFinite (c : Cube K) : Bool :=
  c.lower.isFinite && c.upper.isFinite && c.origin.isFinite && c.rotation.isFinite &&
    c.inflate.all Scalar.isFinite && c.uvOffset.all Vec2.isFinite

end Model

def Model.isFinite {K : Type} [Scalar K] (m : Model K) : Bool :=
  m.bones.toList.all Model.Bone.isFinite && m.cubes.toList.all Model.Cube.isFinite

namespace Plan

section Changes

variable {K : Type} {compare : Bool}

lemma parentMatches_self (bones : Model.Bones K) (parent : String) :
    parentMatches bones parent (some parent) = true := by
  simp [parentMatches]

lemma idChange_self (id : String) : idChange compare id (some id) = none := by
  simp [idChange]

lemma nameChange_self (name : String) : nameChange compare name name = none := by
  simp [nameChange]

lemma switchChange_self (switch : Option Bool) (default : Bool) :
    switchChange compare switch (switch.getD default) = none := by
  cases switch <;> simp [switchChange]

lemma vectorChange_self [Scalar K] {a : Vec3 K} (h : a.near a = true) :
    vectorChange compare a a = none := by
  simp [vectorChange, h]

end Changes

variable {bones : Model.Bones Float} {all : Bool}

lemma diffBone_toLive {b : Model.Bone Float} (h : b.isFinite = true) :
    diffBone bones all b b.toLive = ({}, false) := by
  simp only [Model.Bone.isFinite, Bool.and_eq_true] at h
  obtain ⟨⟨hpivot, hrotation⟩, hscale⟩ := h
  have hparent : (b.parent.filter fun parent =>
      (all || b.explicit.parent) && !parentMatches bones parent b.parent) = none := by
    cases b.parent with
    | none => rfl
    | some parent => simp [parentMatches_self]
  have htop : ((all || b.explicit.parent) && b.parent.isNone && b.parent.isSome) = false := by
    cases b.parent <;> simp
  simp only [diffBone, Model.Bone.toLive, idChange_self, nameChange_self, hparent,
    vectorChange_self (Vec3.near_self hpivot), vectorChange_self (Vec3.near_self hrotation),
    vectorChange_self (Vec3.near_self hscale), switchChange_self, htop]

lemma diffCube_toLive {c : Model.Cube Float} (h : c.isFinite = true) :
    diffCube bones all c c.toLive = ({}, false) := by
  simp only [Model.Cube.isFinite, Bool.and_eq_true] at h
  obtain ⟨⟨⟨⟨⟨hlower, hupper⟩, horigin⟩, hrotation⟩, hinflate⟩, huv⟩ := h
  have horigin' : c.toLive.effectiveOrigin = c.origin := rfl
  have hinflate' : (c.inflate.filter fun value => (all || c.explicit.inflate) &&
      !Scalar.near value (c.inflate.getD Scalar.zero)) = none := by
    cases hi : c.inflate with
    | none => rfl
    | some value =>
      rw [hi] at hinflate
      simp [Scalar.near_self hinflate]
  have huv' : (c.uvOffset.filter fun value => (all || c.explicit.uvOffset) &&
      !value.near (c.uvOffset.getD .zero)) = none := by
    cases ho : c.uvOffset with
    | none => rfl
    | some value =>
      rw [ho] at huv
      simp [Vec2.near_self huv]
  simp only [diffCube, horigin']
  simp only [Model.Cube.toLive, idChange_self, nameChange_self, parentMatches_self,
    vectorChange_self (Vec3.near_self horigin), vectorChange_self (Vec3.near_self hrotation),
    Vec3.near_self hlower, Vec3.near_self hupper, switchChange_self, hinflate', huv', Bool.and_self,
    Bool.not_true, Bool.and_false, Bool.false_and, Bool.false_eq_true, if_false]

lemma boneOp?_settled {b : Model.Bone Float} {slot : Slot (Live.Bone Float)} (h : b.isFinite = true)
    (hs : slot.entity = b.toLive) : boneOp? bones all (b, some slot) = none := by
  simp only [boneOp?, hs, diffBone_toLive h]
  rfl

lemma cubeOp?_settled {c : Model.Cube Float} {slot : Slot (Live.Cube Float)} (h : c.isFinite = true)
    (hs : slot.entity = c.toLive) : cubeOp? bones all (c, some slot) = none := by
  simp only [cubeOp?, hs, diffCube_toLive h]
  rfl

variable {m : Model Float}

lemma bone_claim {pair : Model.Bone Float × Option (Slot (Live.Bone Float))}
    (hp : pair ∈ (boneMatching m m.toLive).pairs) :
    ∃ slot, pair.2 = some slot ∧ slot.entity = pair.1.toLive :=
  claim_of_map Model.Bone.toLive (fun _ => rfl) hp

lemma cube_claim {pair : Model.Cube Float × Option (Slot (Live.Cube Float))}
    (hp : pair ∈ (cubeMatching m m.toLive).pairs) :
    ∃ slot, pair.2 = some slot ∧ slot.entity = pair.1.toLive :=
  claim_of_map Model.Cube.toLive (fun _ => rfl) hp

lemma boneOps_settled (h : m.isFinite = true) :
    boneOps m.bones all (boneMatching m m.toLive) = [] := by
  simp only [Model.isFinite, Bool.and_eq_true, List.all_eq_true] at h
  refine List.filterMap_eq_nil_iff.mpr fun id _ => Option.bind_eq_none_iff.mpr fun pair hpair => ?_
  have hp := List.mem_of_find?_eq_some hpair
  obtain ⟨slot, hslot, hs⟩ := bone_claim hp
  obtain ⟨b, claim⟩ := pair
  obtain rfl : claim = some slot := hslot
  exact boneOp?_settled (h.1 b (mem_of_pair hp)) hs

lemma cubeOps_settled (h : m.isFinite = true) :
    cubeOps m.bones all (cubeMatching m m.toLive) = [] := by
  simp only [Model.isFinite, Bool.and_eq_true, List.all_eq_true] at h
  have hops : (cubeMatching m m.toLive).pairs.filterMap (cubeOp? m.bones all) = [] := by
    refine List.filterMap_eq_nil_iff.mpr fun pair hp => ?_
    obtain ⟨slot, hslot, hs⟩ := cube_claim hp
    obtain ⟨c, claim⟩ := pair
    obtain rfl : claim = some slot := hslot
    exact cubeOp?_settled (h.2 c (mem_of_pair hp)) hs
  rw [cubeOps, hops]
  rfl

lemma opsFor_toLive {mode : Mode} {deleteOrphans : Bool} (h : m.isFinite = true) :
    opsFor mode deleteOrphans m m.toLive = [] := by
  have hb : (boneMatching m m.toLive).orphans m.bones.toList = [] :=
    orphans_map_eq_nil Model.Bone.toLive (fun _ => rfl) _
  have hc : (cubeMatching m m.toLive).orphans m.cubes.toList = [] :=
    orphans_map_eq_nil Model.Cube.toLive (fun _ => rfl) _
  rw [opsFor, boneOps_settled h, cubeOps_settled h, hb, hc]
  simp [boneDeletions]

/-- Whatever the mode and whether or not leftovers are deleted, a model that the live one has become
plans nothing more. -/
theorem ofModel_settled {mode : Mode} (deleteOrphans : Bool) (hmode : mode ≠ .create)
    (hm : m.isFinite = true) :
    ∃ plan, ofModel mode deleteOrphans m m.toLive = .ok plan ∧ plan.ops = [] := by
  have hbones : Mode.check (K := Float) mode .bone (boneMatching m m.toLive) = .ok () :=
    check_of_claimed hmode fun pair hp => by
      obtain ⟨slot, hslot, -⟩ := bone_claim hp
      rw [hslot]
      rfl
  have hcubes : Mode.check (K := Float) mode .cube (cubeMatching m m.toLive) = .ok () :=
    check_of_claimed hmode fun pair hp => by
      obtain ⟨slot, hslot, -⟩ := cube_claim hp
      rw [hslot]
      rfl
  exact ⟨_, ofModel_ok.mpr ⟨hbones, hcubes, rfl⟩, opsFor_toLive hm⟩

theorem ofModel_settled_critter : ∃ m, Model.ofSpec .standard (Spec.critter : Spec Float) = .ok m ∧
    m.isFinite = true ∧
      ∃ plan, ofModel .replace true m m.toLive = .ok plan ∧ plan.ops = [] := by
  obtain ⟨m, hm⟩ : ∃ m, Model.ofSpec .standard (Spec.critter : Spec Float) = .ok m :=
    Attempts.exists_ok (by decide +kernel)
  have hfinite : m.isFinite = true := by
    have hall : (Model.ofSpec .standard (Spec.critter : Spec Float)).toOption.all Model.isFinite =
        true := by decide +kernel
    rw [hm] at hall
    exact hall
  exact ⟨m, hm, hfinite, ofModel_settled true (by decide) hfinite⟩

end Plan

end Armature
