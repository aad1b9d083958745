import Armature.Proofs.Overlays

/-! The tops of a hierarchy with a root: the root bone is the only one, unless a bone that is itself
the default parent leaves its parent to the policy. -/

namespace Armature

open Relation

variable {K : Type}

namespace Template

variable [Scalar K]

lemma eq_root_of_parent {template : Template} {bone : Bone K} (h : bone ∈ template.bones)
    (hparent : bone.parent = none) : bone.id = rootId := by
  cases template <;> simp only [bones, List.mem_cons, List.not_mem_nil, or_false] at h
  case biped =>
    rcases h with rfl | rfl | rfl | rfl | rfl | rfl | rfl <;> first | rfl | cases hparent
  case quadruped =>
    rcases h with rfl | rfl | rfl | rfl | rfl | rfl | rfl <;> first | rfl | cases hparent
  case blockEntity =>
    subst h
    rfl

end Template

/-- The bone `id` is the default parent of the policy, not the root, and has an entry without a
parent. -/
def Spec.SelfDefaulted [Scalar K] (spec : Spec K) (id : String) : Prop :=
  spec.policy.defaultParent = some id ∧ id ≠ rootId ∧ ∃ entry ∈ spec.bones, entry.parent = none ∧
    ∃ name, identify (K := K) spec.policy.idPolicy .bone 0 entry.id entry.name (some id) =
      .ok (id, name)

namespace Model

lemma SoundBones.exists_top {limits : Limits} {bones : Bones K} {id : String}
    (h : SoundBones limits bones) (hid : id ∈ bones.ids) :
    ∃ top ∈ bones.toList, top.parent = none ∧ ReflTransGen (ParentOf bones) id top.id := by
  have hcycles : checkCycles bones [] bones.ids = .ok () := checkCycles_of_acyclic h.acyclic
  have hgrounded : Grounded bones id := checkCycles_grounded (by simp) hcycles id hid
  induction hgrounded with
  | intro id _ ih =>
    obtain ⟨b, hb, rfl⟩ := Roster.mem_ids.mp hid
    cases hparent : b.parent with
    | none => exact ⟨b, hb, hparent, .refl⟩
    | some parent =>
      have hedge : ParentOf bones b.id parent := ⟨b, hb, rfl, hparent⟩
      obtain ⟨top, htop, hnone, hway⟩ := ih parent hedge (h.parents b hb parent hparent)
      exact ⟨top, htop, hnone, .head hedge hway⟩

def OneTop (bones : Bones K) : Prop :=
  rootId ∈ bones.ids ∧ (∀ b ∈ bones.toList, ReflTransGen (ParentOf bones) b.id rootId) ∧
    ∀ b ∈ bones.toList, b.parent = none ↔ b.id = rootId

variable [Scalar K] {limits : Limits} {spec : Spec K} {m : Model K}

/-- Every way up ends, at the root or at a bone that would be its own parent. -/
structure Topped (spec : Spec K) (bones : Bones K) : Prop where
  ends : ∀ b ∈ bones.toList, ∃ top ∈ bones.toList, top.parent = none ∧
    ReflTransGen (ParentOf bones) b.id top.id
  tops : ∀ b ∈ bones.toList, b.parent = none → b.id = rootId ∨ spec.SelfDefaulted b.id
  self_defaulted : ∀ id, spec.SelfDefaulted id → ∃ b ∈ bones.toList, b.id = id ∧ b.parent = none

lemma selfDefaulted_of_carried {entry : Spec.Bone K} {b : Bone K}
    (henforce : spec.policy.enforceRoot = true) (hentry : entry ∈ spec.bones)
    (h : entry.CarriedBy spec.policy b) (hparent : b.parent = none) (hid : b.id ≠ rootId) :
    spec.SelfDefaulted b.id := by
  have hnone : entry.parent = none := by
    cases hnamed : entry.parent with
    | none => rfl
    | some parent =>
      rw [h.parent_eq, hnamed] at hparent
      cases hparent
  have hself : spec.policy.parent? = some b.id := by
    cases hdefault : spec.policy.parent? with
    | none => simp [Spec.Policy.parent?, henforce] at hdefault
    | some parent =>
      rw [h.parent_eq, hnone, hdefault] at hparent
      simpa [Option.filter] using hparent
  have hdefault : spec.policy.defaultParent = some b.id := by
    cases hnamed : spec.policy.defaultParent with
    | none =>
      rw [Spec.Policy.parent?, hnamed, if_pos henforce] at hself
      exact (hid (Option.some.inj hself).symm).elim
    | some parent =>
      rw [Spec.Policy.parent?, hnamed] at hself
      exact hself
  have hidentity := h.identity
  rw [hnone, hself] at hidentity
  exact ⟨hdefault, hid, entry, hentry, hnone, b.name, hidentity⟩

lemma carried_of_selfDefaulted {entry : Spec.Bone K} {b : Bone K} {id name : String}
    (h : entry.CarriedBy spec.policy b) (hnone : entry.parent = none)
    (hdefault : spec.policy.defaultParent = some id)
    (hidentity : Spec.identify (K := K) spec.policy.idPolicy .bone 0 entry.id entry.name (some id) =
      .ok (id, name)) : b.id = id ∧ b.parent = none := by
  have hself : spec.policy.parent? = some id := by
    rw [Spec.Policy.parent?, hdefault]
    rfl
  have hsame := h.identity
  rw [hnone, hself] at hsame
  have hid : b.id = id := congrArg Prod.fst (Except.ok.inj (hsame.symm.trans hidentity))
  refine ⟨hid, ?_⟩
  rw [h.parent_eq, hnone, hself, hid]
  simp [Option.filter]

lemma Stages.topped (s : Stages limits spec) (henforce : spec.policy.enforceRoot = true) :
    Topped spec s.model.bones := by
  obtain ⟨bones, hbones, hids, -⟩ := s.bones_overlaid
  refine ⟨?_, ?_, ?_⟩
  · intro b hb
    exact (sound_bones s.ofSpec_eq).exists_top (Roster.mem_ids_of_mem hb)
  · intro b hb hparent
    by_cases hroot : b.id = rootId
    · exact .inl hroot
    have hmem : b.id ∈ rootAhead spec.policy (overlay spec.rigBones (bones.map Bone.id)) := by
      rw [← hids, ← ids_addRoot, ← s.ids_bones]
      exact Roster.mem_ids_of_mem hb
    have hid := mem_of_mem_rootAhead hmem hroot
    rcases hbones.carried_or_kept (fun _ _ hkept => hkept.id) hb hid with
      ⟨entry, hentry, hcarried⟩ | ⟨r, hr, hkept⟩
    · exact .inr (selfDefaulted_of_carried henforce hentry hcarried hparent hroot)
    · rw [hkept.parent] at hparent
      exact .inl (hkept.id.trans (Template.eq_root_of_parent hr hparent))
  · rintro id ⟨hdefault, -, entry, hentry, hnone, name, hidentity⟩
    obtain ⟨b, hb, hcarried⟩ := exists_of_mem_left hbones.carried hentry
    exact ⟨b, hbones.present b hb, carried_of_selfDefaulted hcarried hnone hdefault hidentity⟩

lemma Topped.oneTop {bones : Bones K} (h : Topped spec bones)
    (hnone : ∀ id, ¬ spec.SelfDefaulted id) (hroot : rootId ∈ bones.ids) : OneTop bones := by
  have htop : ∀ b ∈ bones.toList, b.parent = none → b.id = rootId := by
    intro b hb hparent
    exact (h.tops b hb hparent).resolve_right (hnone b.id)
  refine ⟨hroot, ?_, fun b hb => ⟨htop b hb, fun hid => ?_⟩⟩
  · intro b hb
    obtain ⟨top, hmem, hparent, hway⟩ := h.ends b hb
    exact htop top hmem hparent ▸ hway
  · -- a way up from the root ends at the root, where nothing leads on
    obtain ⟨top, hmem, hparent, -⟩ := h.ends b hb
    obtain rfl : top = b := Roster.eq_of_id_eq hmem hb ((htop top hmem hparent).trans hid.symm)
    exact hparent

theorem ofSpec_tops (h : ofSpec limits spec = .ok m) (henforce : spec.policy.enforceRoot = true) :
    Topped spec m.bones ∧ (OneTop m.bones ↔ ∀ id, ¬ spec.SelfDefaulted id) := by
  have hroot := root_mem h henforce
  obtain ⟨s, rfl⟩ := exists_stages h
  have htopped := s.topped henforce
  refine ⟨htopped, ⟨?_, fun hnone => htopped.oneTop hnone hroot⟩⟩
  rintro ⟨-, -, htops⟩ id hself
  obtain ⟨b, hb, rfl, hparent⟩ := htopped.self_defaulted id hself
  exact hself.2.1 ((htops b hb).mp hparent)

def spineSpec : Spec Float where
  bones := [{ id := some "spine" }]
  policy := { defaultParent := some "spine" }

/-- The spine has no parent, and is not the root. -/
theorem spine_unrooted : ∃ m, ofSpec .standard spineSpec = .ok m ∧
    spineSpec.policy.enforceRoot = true ∧ ∃ b ∈ m.bones.toList, b.parent = none ∧ b.id ≠ "root" ∧
      ¬ ReflTransGen (ParentOf m.bones) b.id "root" := by
  obtain ⟨m, hm⟩ : ∃ m, ofSpec .standard spineSpec = .ok m :=
    Attempts.exists_ok (by decide +kernel)
  have hspine : (m.bones.toList.map fun b => (b.id, b.parent)) =
      [("root", none), ("spine", none)] := by
    apply Attempts.holds_of_all (p := fun m : Model Float =>
      (m.bones.toList.map fun b => (b.id, b.parent)) = [("root", none), ("spine", none)]) hm
    decide +kernel
  obtain ⟨b, hb, hframe⟩ : ∃ b ∈ m.bones.toList, (b.id, b.parent) = ("spine", none) := by
    apply List.mem_map.mp
    rw [hspine]
    decide
  obtain ⟨hid, hparent⟩ := Prod.mk.inj hframe
  have hne : b.id ≠ "root" := by
    rw [hid]
    decide
  refine ⟨m, hm, rfl, b, hb, hparent, hne, fun hway => ?_⟩
  rcases hway.cases_head with heq | ⟨parent, ⟨b', hb', hid', hparent'⟩, -⟩
  · exact hne heq
  · obtain rfl : b' = b := Roster.eq_of_id_eq hb' hb hid'
    rw [hparent] at hparent'
    cases hparent'

theorem ofSpec_tops_spine : ∃ m, ofSpec .standard spineSpec = .ok m ∧
    spineSpec.policy.enforceRoot = true ∧ Topped spineSpec m.bones ∧
      (OneTop m.bones ↔ ∀ id, ¬ spineSpec.SelfDefaulted id) := by
  obtain ⟨m, hm⟩ : ∃ m, ofSpec .standard spineSpec = .ok m :=
    Attempts.exists_ok (by decide +kernel)
  obtain ⟨htopped, hone⟩ := ofSpec_tops hm rfl
  exact ⟨m, hm, rfl, htopped, hone⟩

end Model

end Armature
