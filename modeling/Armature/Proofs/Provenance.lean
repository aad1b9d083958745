import Armature.Proofs.AnchorSolutions
import Armature.Proofs.Expansions
import Armature.Proofs.Merging

/-! Where the entities of a model come from: an entry, the starter rig, the added root bone, or a
copy. After they are merged they only move, and a copy has an id of its own. -/

namespace Armature

variable {K : Type}

namespace Template

variable [Scalar K]

lemma bones_nodup (template : Template) :
    ((template.bones (K := K)).map Template.Bone.id).Nodup := by
  cases template with
  | empty => exact List.nodup_nil
  | biped =>
    change ["root", "body", "head", "right_arm", "left_arm", "right_leg", "left_leg"].Nodup
    decide
  | quadruped =>
    change ["root", "body", "head", "leg_back_right", "leg_back_left", "leg_front_right",
      "leg_front_left"].Nodup
    decide
  | blockEntity => exact List.nodup_singleton _

lemma cubes_nodup (template : Template) :
    ((template.cubes (K := K)).map Template.Cube.id).Nodup := by
  cases template with
  | blockEntity => exact List.nodup_singleton _
  | _ => exact List.nodup_nil

lemma toList_modelBones (template : Template) : (template.modelBones (K := K)).toList =
    template.bones.map fun bone =>
      { Model.Bone.ofId bone.id bone.parent with pivot := bone.pivot } := by
  apply Roster.toList_ofList
  rw [List.map_map]
  exact template.bones_nodup

lemma toList_modelCubes (template : Template) : (template.modelCubes (K := K)).toList =
    template.cubes.map fun cube => .ofBox cube.id cube.parent cube.lower cube.upper := by
  apply Roster.toList_ofList
  rw [List.map_map]
  exact template.cubes_nodup

end Template

namespace Model

def Bone.Moved (before after : Bone K) : Prop := after = { before with pivot := after.pivot }

def Cube.Moved (before after : Cube K) : Prop :=
  after = { before with lower := after.lower, upper := after.upper, origin := after.origin }

def Describes {α ε : Type} [Identified α] (resolve : ℕ → ε → Except (Fault K) α) (entry : ε)
    (id : String) : Prop :=
  ∃ a, StandsFor resolve entry a ∧ Identified.id a = id

variable [Scalar K] {limits : Limits} {spec : Spec K}

lemma explicit_modelBones {template : Template} {b : Bone K} (h : b ∈ template.modelBones.toList) :
    b.explicit = {} := by
  rw [Template.toList_modelBones] at h
  obtain ⟨bone, -, rfl⟩ := List.mem_map.mp h
  rfl

lemma explicit_modelCubes {template : Template} {c : Cube K} (h : c ∈ template.modelCubes.toList) :
    c.explicit = {} := by
  rw [Template.toList_modelCubes] at h
  obtain ⟨cube, -, rfl⟩ := List.mem_map.mp h
  rfl

lemma resolveAnchors_moved {bones : Bones K} {cubes : Cubes K} {placed : Bones K × Cubes K}
    (h : resolveAnchors spec bones cubes = .ok placed) :
    (∀ b ∈ placed.1.toList, ∃ b' ∈ bones.toList, b'.Moved b) ∧
      ∀ c ∈ placed.2.toList, ∃ c' ∈ cubes.toList, c'.Moved c := by
  by_cases hnil : spec.anchors = []
  · rw [resolveAnchors, if_pos (by simp [hnil])] at h
    split_ifs at h
    · cases h
    · cases h
      exact ⟨fun b hb => ⟨b, hb, rfl⟩, fun c hc => ⟨c, hc, rfl⟩⟩
  · obtain ⟨point, hsolution, -⟩ := resolveAnchors_solution hnil h
    obtain ⟨-, rfl⟩ := solution_iff.mp hsolution
    refine ⟨fun b hb => ?_, fun c hc => ?_⟩
    · obtain ⟨b', hb', rfl⟩ := List.mem_map.mp hb
      exact ⟨b', hb', rfl⟩
    · obtain ⟨c', hc', rfl⟩ := List.mem_map.mp hc
      exact ⟨c', hc', c'.placeAt_eq _ _⟩

lemma mem_addRoot {policy : Spec.Policy K} {bones : Bones K} {b : Bone K} :
    b ∈ (addRoot policy bones).toList ↔
      b ∈ bones.toList ∨ b = .ofId rootId none ∧ policy.enforceRoot = true ∧ rootId ∉ bones.ids := by
  unfold addRoot
  split_ifs with henforce
  · simp only [Roster.mem_insertFirst, henforce, true_and]
    exact Iff.rfl
  · simp [henforce]

section Copies

variable {cubes : Cubes K} {copying : Copying K}

lemma prefix_of_expand {maxCubes : ℕ} {directives : List (Spec.Directive K)}
    (h : expand maxCubes directives cubes = .ok copying) : cubes.toList <+: copying.cubes.toList := by
  obtain ⟨blocks, -, hcubes, -⟩ := expand_ok.mp h
  exact ⟨blocks.flatten, hcubes.symm⟩

end Copies

namespace Stages

variable (s : Stages limits spec)

lemma bone_merged {b : Bone K} (h : b ∈ s.model.bones.toList) :
    ∃ b' ∈ (addRoot spec.policy s.mergedBones.roster).toList, b'.Moved b := by
  obtain ⟨b, hb, rfl⟩ := List.mem_map.mp h
  obtain ⟨b', hb', hmoved⟩ := (resolveAnchors_moved s.anchored).1 b hb
  refine ⟨b', hb', ?_⟩
  rw [hmoved]
  rfl

lemma ids_anchored : s.cubes.ids = s.mergedCubes.roster.ids := by
  have hframes := congrArg (List.map (·.1)) (resolveAnchors_frames s.anchored).2
  simp only [List.map_map] at hframes
  exact hframes

lemma cube_merged {c c' : Cube K} (h : c ∈ s.model.cubes.toList)
    (h' : c' ∈ s.mergedCubes.roster.toList) (hid : c'.id = c.id) : c'.Moved c := by
  obtain ⟨c, hc, rfl⟩ := List.mem_map.mp h
  have hplaced : c.id ∈ s.cubes.ids := by
    rw [s.ids_anchored]
    exact Roster.mem_ids.mpr ⟨c', h', hid⟩
  obtain ⟨c₁, hc₁, hid₁⟩ := Roster.mem_ids.mp hplaced
  -- a copy has an id that no merged cube has, so this is the merged one itself
  obtain rfl : c₁ = c := Roster.eq_of_id_eq ((prefix_of_expand s.expanded).subset hc₁) hc hid₁
  obtain ⟨c₀, hc₀, hmoved⟩ := (resolveAnchors_moved s.anchored).2 c₁ hc₁
  have hid₀ : c₀.id = c₁.id := by rw [hmoved]
  obtain rfl : c₀ = c' := Roster.eq_of_id_eq hc₀ h' (hid₀.trans hid.symm)
  rw [Cube.Moved, hmoved]
  rfl

end Stages

section Origin

variable {m : Model K} (h : ofSpec limits spec = .ok m)

include h

lemma bone_of_entry {b b' : Bone K} {entry : Spec.Bone K} (hb : b ∈ m.bones.toList)
    (hentry : entry ∈ spec.bones) (hb' : StandsFor (Spec.Bone.resolve spec.policy) entry b')
    (hid : b'.id = b.id) : b'.Moved b := by
  obtain ⟨s, rfl⟩ := exists_stages h
  obtain ⟨b₀, hb₀, hmoved⟩ := s.bone_merged hb
  have hmerged := (mem_mergeEntries (fun _ _ => resolveBone_index) s.bones_merged).mpr
    (.inl ⟨entry, hentry, hb'⟩)
  have hid₀ : b₀.id = b.id := by rw [hmoved]
  obtain rfl : b₀ = b' :=
    Roster.eq_of_id_eq hb₀ (mem_addRoot.mpr (.inl hmerged)) (hid₀.trans hid.symm)
  exact hmoved

lemma bone_described {b : Bone K} {entry : Spec.Bone K} (hb : b ∈ m.bones.toList)
    (hentry : entry ∈ spec.bones)
    (hdescribes : Describes (Spec.Bone.resolve spec.policy) entry b.id) :
    Spec.identify (K := K) spec.policy.idPolicy .bone 0 entry.id entry.name
        (entry.parent <|> spec.policy.parent?) = .ok (b.id, b.name) ∧
      b.explicit = entry.flags ∧ ∀ parent ∈ entry.parent, b.parent = some parent := by
  obtain ⟨b', hstands, hid⟩ := hdescribes
  have hresolved := resolveBone_ok hstands
  rw [bone_of_entry h hb hentry hstands hid]
  exact hresolved

lemma bone_undescribed {b : Bone K} (hb : b ∈ m.bones.toList)
    (hnone : ∀ entry ∈ spec.bones, ¬ Describes (Spec.Bone.resolve spec.policy) entry b.id) :
    b.explicit = {} := by
  obtain ⟨s, rfl⟩ := exists_stages h
  obtain ⟨b', hb', hmoved⟩ := s.bone_merged hb
  have hid : b'.id = b.id := by rw [hmoved]
  have hset : b'.explicit = {} := by
    rcases mem_addRoot.mp hb' with hmerged | ⟨rfl, -⟩
    · rcases (mem_mergeEntries (fun _ _ => resolveBone_index) s.bones_merged).mp hmerged with
        ⟨entry, hentry, hstands⟩ | ⟨hrig, -⟩
      · exact (hnone entry hentry ⟨b', hstands, hid⟩).elim
      · exact explicit_modelBones hrig
    · rfl
  rw [hmoved]
  exact hset

lemma cube_of_entry {c c' : Cube K} {entry : Spec.Cube K} (hc : c ∈ m.cubes.toList)
    (hentry : entry ∈ spec.cubes) (hc' : StandsFor (Spec.Cube.resolve spec.policy) entry c')
    (hid : c'.id = c.id) : c'.Moved c := by
  obtain ⟨s, rfl⟩ := exists_stages h
  have hmerged := (mem_mergeEntries (fun _ _ => resolveCube_index) s.cubes_merged).mpr
    (.inl ⟨entry, hentry, hc'⟩)
  exact s.cube_merged hc hmerged hid

lemma cube_described {c : Cube K} {entry : Spec.Cube K} (hc : c ∈ m.cubes.toList)
    (hentry : entry ∈ spec.cubes)
    (hdescribes : Describes (Spec.Cube.resolve spec.policy) entry c.id) :
    Spec.identify (K := K) spec.policy.idPolicy .cube 0 entry.id entry.name
        (entry.parent <|> spec.policy.parent?) = .ok (c.id, c.name) ∧
      c.explicit = entry.flags := by
  obtain ⟨c', hstands, hid⟩ := hdescribes
  obtain ⟨hidentity, hset, -⟩ := resolveCube_ok hstands
  rw [cube_of_entry h hc hentry hstands hid]
  exact ⟨hidentity, hset⟩

lemma cube_undescribed {c : Cube K} (hc : c ∈ m.cubes.toList)
    (hrig : c.id ∈ (spec.template.modelCubes (K := K)).ids)
    (hnone : ∀ entry ∈ spec.cubes, ¬ Describes (Spec.Cube.resolve spec.policy) entry c.id) :
    c.explicit = {} := by
  obtain ⟨s, rfl⟩ := exists_stages h
  obtain ⟨c', hc', hid⟩ := Roster.mem_ids.mp hrig
  have hmerged := (mem_mergeEntries (fun _ _ => resolveCube_index) s.cubes_merged).mpr
    (.inr ⟨hc', fun entry hm b hb hid' => hnone entry hm ⟨b, hb, hid'.trans hid⟩⟩)
  have hset : c'.explicit = {} := explicit_modelCubes hc'
  rw [s.cube_merged hc hmerged hid]
  exact hset

end Origin

end Model

end Armature
