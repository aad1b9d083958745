import Armature.Proofs.Hierarchies
import Armature.Proofs.Stages
import Armature.Spec.Critter

/-! The model of a spec is sound. What is checked between the stages is kept by the later ones:
anchors, the grid and the bounds only move entities, and a copy hangs where its source hangs. -/

namespace Armature.Model

open Relation

variable {K : Type} {limits : Limits}

def Bone.frame (b : Bone K) : String × String × Option String := (b.id, b.name, b.parent)

def Cube.frame (c : Cube K) : String × String × String := (c.id, c.name, c.parent)

section Frames

variable {bones bones' : Bones K} {cubes cubes' : Cubes K}

lemma bones_ids_eq (bones : Bones K) : bones.ids = (bones.toList.map Bone.frame).map (·.1) := by
  simp only [Roster.ids, List.map_map]
  rfl

lemma parentOf_iff_frame {child parent : String} :
    ParentOf bones child parent ↔
      ∃ name, (child, name, some parent) ∈ bones.toList.map Bone.frame := by
  simp only [ParentOf, List.mem_map, Bone.frame, Prod.mk.injEq]
  constructor
  · rintro ⟨b, hb, hid, hp⟩
    exact ⟨b.name, b, hb, hid, rfl, hp⟩
  · rintro ⟨_, b, hb, hid, -, hp⟩
    exact ⟨b, hb, hid, hp⟩

lemma SoundBones.of_frame_eq (h : SoundBones limits bones)
    (hf : bones'.toList.map Bone.frame = bones.toList.map Bone.frame) :
    SoundBones limits bones' := by
  have hids : bones'.ids = bones.ids := by rw [bones_ids_eq, hf, ← bones_ids_eq]
  have hparent : ParentOf bones' = ParentOf bones := by
    funext child parent
    rw [parentOf_iff_frame, hf, ← parentOf_iff_frame]
  refine ⟨?_, ?_, fun b hb p hp => ?_, ?_⟩
  · have hlen := congrArg List.length hf
    simp only [List.length_map] at hlen
    simpa only [Roster.size, hlen] using h.count
  · have hnames := congrArg (List.map (·.2.1)) hf
    simp only [List.map_map] at hnames
    exact (congrArg List.Nodup hnames).mpr h.names
  · have hpo : ParentOf bones' b.id p := ⟨b, hb, rfl, hp⟩
    rw [hparent] at hpo
    obtain ⟨b', hb', -, hp'⟩ := hpo
    exact hids ▸ h.parents b' hb' p hp'
  · simpa only [Acyclic, hparent] using h.acyclic

lemma parents_of_frame_eq {ids : List String} (h : ∀ c ∈ cubes.toList, c.parent ∈ ids)
    (hf : cubes'.toList.map Cube.frame = cubes.toList.map Cube.frame) :
    ∀ c ∈ cubes'.toList, c.parent ∈ ids := by
  intro c hc
  have hm : c.frame ∈ cubes.toList.map Cube.frame := hf ▸ List.mem_map_of_mem hc
  obtain ⟨c', hc', he⟩ := List.mem_map.mp hm
  have hp : c'.parent = c.parent := congrArg (·.2.2) he
  exact hp ▸ h c' hc'

lemma addCopy_ok {index : Nat} {cubes cubes' : Cubes K} {c : Cube K}
    (h : addCopy index cubes c = .ok cubes') :
    c.id ∉ cubes.ids ∧ cubes'.toList = cubes.toList ++ [c] := by
  unfold addCopy at h
  split_ifs at h with hc
  have hid : c.id ∉ cubes.ids := fun hm => hc (Roster.contains_iff.mpr hm)
  cases h
  exact ⟨hid, Roster.toList_insert_of_not_mem hid⟩

end Frames

variable [Scalar K]

lemma settle_frames (anchors : List (Spec.Anchor K)) (a : Anchored K) (node : Node) :
    (a.settle anchors node).bones.toList.map Bone.frame = a.bones.toList.map Bone.frame ∧
      (a.settle anchors node).cubes.toList.map Cube.frame = a.cubes.toList.map Cube.frame := by
  cases node with
  | anchor id =>
    simp only [Anchored.settle]
    split <;> exact ⟨rfl, rfl⟩
  | bone id =>
    refine ⟨Roster.map_toList_modify (h := ?_) fun _ => rfl, rfl⟩
    exact fun _ => rfl
  | cube id =>
    refine ⟨rfl, Roster.map_toList_modify (h := fun c => c.id_placeAt _ _) fun c => ?_⟩
    cases c.centerAnchor.bind a.point? <;> cases c.originAnchor.bind a.point? <;> rfl

lemma foldl_settle_frames (anchors : List (Spec.Anchor K)) (order : List Node) (a : Anchored K) :
    (order.foldl (Anchored.settle anchors) a).bones.toList.map Bone.frame =
        a.bones.toList.map Bone.frame ∧
      (order.foldl (Anchored.settle anchors) a).cubes.toList.map Cube.frame =
        a.cubes.toList.map Cube.frame := by
  induction order generalizing a with
  | nil => exact ⟨rfl, rfl⟩
  | cons node order ih =>
    obtain ⟨hb, hc⟩ := ih (a.settle anchors node)
    obtain ⟨hb', hc'⟩ := settle_frames anchors a node
    exact ⟨hb.trans hb', hc.trans hc'⟩

lemma resolveAnchors_frames {spec : Spec K} {bones bones' : Bones K} {cubes cubes' : Cubes K}
    (h : resolveAnchors spec bones cubes = .ok (bones', cubes')) :
    bones'.toList.map Bone.frame = bones.toList.map Bone.frame ∧
      cubes'.toList.map Cube.frame = cubes.toList.map Cube.frame := by
  unfold resolveAnchors at h
  split at h
  · split at h
    · cases h
    · cases h
      exact ⟨rfl, rfl⟩
  · obtain ⟨-, h⟩ := Attempts.then_ok.mp h
    obtain ⟨order, -, h⟩ := Attempts.bind_ok.mp h
    cases h
    exact foldl_settle_frames spec.anchors order { bones, cubes }

lemma expansion_parent {directive : Spec.Directive K} {e : Expansion K}
    (h : expansion? directive = .ok e) (source : Cube K) :
    ∀ c ∈ e.copies source, c.parent = source.parent := by
  cases directive with
  | mirror m =>
    cases h
    simp [Cube.mirrored, Cube.copy]
  | repetition r =>
    cases h
    simp [Cube.shifted, Cube.copy]
  | radial r =>
    cases h
    simp [Cube.turned, Cube.copy]
  | unknown type value => cases h

lemma carryOut_parents {ids : List String} {maxCubes : Nat} {c c' : Copying K}
    {directive : Spec.Directive K × Nat} (hc : ∀ cube ∈ c.cubes.toList, cube.parent ∈ ids)
    (h : c.carryOut maxCubes directive = .ok c') : ∀ cube ∈ c'.cubes.toList, cube.parent ∈ ids := by
  simp only [Copying.carryOut] at h
  split at h
  · cases h
    exact hc
  next e he =>
  split at h
  · cases h
  next source hsource =>
  have hparent : source.parent ∈ ids := hc source (Roster.get?_eq_some.mp hsource).1
  split_ifs at h
  obtain ⟨cubes, hcubes, h⟩ := Attempts.bind_ok.mp h
  cases h
  refine Attempts.foldlM_keeps (fun cubes => ∀ cube ∈ cubes.toList, cube.parent ∈ ids) ?_ hc hcubes
  intro copy hcopy cubes cubes' hc hadd
  rw [(addCopy_ok hadd).2, List.forall_mem_append, List.forall_mem_singleton]
  exact ⟨hc, expansion_parent he source copy hcopy ▸ hparent⟩

lemma expand_parents {ids : List String} {maxCubes : Nat} {directives : List (Spec.Directive K)}
    {cubes : Cubes K} {copying : Copying K} (hc : ∀ cube ∈ cubes.toList, cube.parent ∈ ids)
    (h : expand maxCubes directives cubes = .ok copying) :
    ∀ cube ∈ copying.cubes.toList, cube.parent ∈ ids :=
  Attempts.foldlM_keeps (fun c : Copying K => ∀ cube ∈ c.cubes.toList, cube.parent ∈ ids)
    (fun _ _ _ _ hc h => carryOut_parents hc h) hc h

variable {spec : Spec K} {m : Model K}

lemma Stages.bone_frames (s : Stages limits spec) :
    s.model.bones.toList.map Bone.frame =
      (addRoot spec.policy s.mergedBones.roster).toList.map Bone.frame :=
  (Roster.map_toList_map (f := Bone.place spec.policy) (h := fun _ => rfl) fun _ => rfl).trans
    (resolveAnchors_frames s.anchored).1

lemma Stages.cube_frames (s : Stages limits spec) :
    s.model.cubes.toList.map Cube.frame = s.copying.cubes.toList.map Cube.frame :=
  Roster.map_toList_map (f := Cube.place spec.policy) (h := fun _ => rfl) fun _ => rfl

lemma sound_bones (h : ofSpec limits spec = .ok m) : SoundBones limits m.bones := by
  obtain ⟨s, rfl⟩ := exists_stages h
  exact (checkBones_ok.mp s.bones_ok).of_frame_eq s.bone_frames

lemma sound_cubes (h : ofSpec limits spec = .ok m) : SoundCubes limits m.bones m.cubes := by
  obtain ⟨s, rfl⟩ := exists_stages h
  have hids : s.model.bones.ids = (addRoot spec.policy s.mergedBones.roster).ids := by
    rw [bones_ids_eq, s.bone_frames, ← bones_ids_eq]
  refine ⟨?_, ?_, ?_⟩
  · have hlen := congrArg List.length s.cube_frames
    simp only [List.length_map] at hlen
    simpa only [Roster.size, hlen] using checkCubeCount_ok.mp s.count_ok
  · have hnames := congrArg (List.map (·.2.1)) s.cube_frames
    simp only [List.map_map] at hnames
    exact (congrArg List.Nodup hnames).mpr (checkCubeNames_ok.mp s.names_ok).1
  · rw [hids]
    refine parents_of_frame_eq (expand_parents ?_ s.expanded) s.cube_frames
    exact parents_of_frame_eq (checkCubes_ok.mp s.cubes_ok).parents (resolveAnchors_frames s.anchored).2

lemma root_mem (h : ofSpec limits spec = .ok m) (hroot : spec.policy.enforceRoot = true) :
    rootId ∈ m.bones.ids := by
  obtain ⟨s, rfl⟩ := exists_stages h
  rw [bones_ids_eq, s.bone_frames, ← bones_ids_eq, addRoot, if_pos hroot]
  exact Roster.mem_ids_insertFirst (a := Bone.ofId rootId none)

/-- What a model of a spec is: its entities are found under their own ids, and it is sound. -/
structure Sound (limits : Limits) (policy : Spec.Policy K) (m : Model K) : Prop where
  boneKeys : ∀ id b, m.bones.get? id = some b ↔ b ∈ m.bones.toList ∧ b.id = id
  cubeKeys : ∀ id c, m.cubes.get? id = some c ↔ c ∈ m.cubes.toList ∧ c.id = id
  bones : SoundBones limits m.bones
  cubes : SoundCubes limits m.bones m.cubes
  root : policy.enforceRoot = true → ∃ b ∈ m.bones.toList, b.id = "root"

theorem sound_of_ofSpec (h : ofSpec limits spec = .ok m) : Sound limits spec.policy m where
  boneKeys _ _ := Roster.get?_eq_some
  cubeKeys _ _ := Roster.get?_eq_some
  bones := sound_bones h
  cubes := sound_cubes h
  root hroot := Roster.mem_ids.mp (root_mem h hroot)

theorem sound_critter : ∃ m, ofSpec .standard (Spec.critter : Spec Float) = .ok m ∧
    Sound .standard (Spec.critter : Spec Float).policy m := by
  obtain ⟨m, hm⟩ : ∃ m, ofSpec .standard (Spec.critter : Spec Float) = .ok m :=
    Attempts.exists_ok (by decide +kernel)
  exact ⟨m, hm, sound_of_ofSpec hm⟩

end Armature.Model
