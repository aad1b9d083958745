import Armature.Proofs.LiveHierarchies
import Armature.Proofs.SoundModels
import Armature.Proofs.Steps
import Armature.Proofs.TopDown

/-! The order of a plan: what the model has from the top down, what is left over from the bottom up,
and each kind of operation at its place. -/

namespace Armature.Plan

open Relation

section Order

variable {α β γ : Type} {R : α → α → Prop} {l : List α}

/-- Of two related elements the first one comes before the second one. -/
def InOrder (R : α → α → Prop) (l : List α) : Prop :=
  ∀ ⦃i j : ℕ⦄ ⦃a b : α⦄, l[i]? = some a → l[j]? = some b → R a b → i < j

lemma inOrder_of_pairwise (h : l.Pairwise fun a b => ¬ R b a) (hirrefl : ∀ a ∈ l, ¬ R a a) :
    InOrder R l := by
  intro i j a b ha hb hr
  obtain ⟨hi, rfl⟩ := List.getElem?_eq_some_iff.mp ha
  obtain ⟨hj, rfl⟩ := List.getElem?_eq_some_iff.mp hb
  rcases lt_trichotomy i j with hij | rfl | hji
  · exact hij
  · exact (hirrefl _ (List.getElem_mem hi) hr).elim
  · exact (List.pairwise_iff_getElem.mp h j i hj hi hji hr).elim

lemma inOrder_of_pairwise_filterMap {key : α → Option β} {R : β → β → Prop}
    (h : (l.filterMap key).Pairwise fun x y => ¬ R y x) (hirrefl : ∀ x, ¬ R x x) :
    InOrder (fun a b => ∃ x ∈ key a, ∃ y ∈ key b, R x y) l := by
  refine inOrder_of_pairwise ((List.pairwise_filterMap.mp h).imp ?_) ?_
  · rintro a b hab ⟨x, hx, y, hy, hr⟩
    exact hab y hy x hx hr
  · rintro a _ ⟨x, hx, y, hy, hr⟩
    obtain rfl := Option.mem_unique hx hy
    exact hirrefl x hr

lemma InOrder.mem_of_append {before after : List α} {a b : α} (h : InOrder R (before ++ after))
    (ha : a ∈ before ++ after) (hb : b ∈ before) (hr : R a b) : a ∈ before := by
  obtain ⟨i, hi⟩ := List.mem_iff_getElem?.mp ha
  obtain ⟨j, hj⟩ := List.mem_iff_getElem?.mp hb
  have hlt : j < before.length := (List.getElem?_eq_some_iff.mp hj).1
  have hij : i < j := h hi ((List.getElem?_append_left hlt).trans hj) hr
  rw [List.getElem?_append_left (hij.trans hlt)] at hi
  exact List.mem_of_getElem? hi

lemma filterMap_sublist_filterMap {f g : α → Option β}
    (h : ∀ a ∈ l, ∀ b, f a = some b → g a = some b) :
    (l.filterMap f).Sublist (l.filterMap g) := by
  induction l with
  | nil => exact .refl _
  | cons a l ih =>
    obtain ⟨ha, hl⟩ := List.forall_mem_cons.mp h
    cases hf : f a with
    | none =>
      rw [List.filterMap_cons_none hf, List.filterMap_cons]
      split
      · exact ih hl
      · exact (ih hl).cons _
    | some b =>
      rw [List.filterMap_cons_some hf, List.filterMap_cons_some (ha b hf)]
      exact (ih hl).cons_cons _

lemma filterMap_map_none {f : α → β} {key : β → Option γ} (h : ∀ a, key (f a) = none)
    (l : List α) : (l.map f).filterMap key = [] := by
  simp [h]

lemma filterMap_map_some {f : α → β} {key : β → Option γ} {g : α → γ}
    (h : ∀ a, key (f a) = some (g a)) (l : List α) : (l.map f).filterMap key = l.map g := by
  simp [List.filterMap_map, h]

end Order

def OpKind.group : OpKind → ℕ
  | .createBone | .updateBone => 0
  | .createCube => 1
  | .updateCube => 2
  | .deleteCube => 3
  | .deleteBone => 4

variable {K : Type} [Scalar K]

/-- What the order of the steps of a plan has to be. -/
structure Sequenced (mode : Mode) (deleteOrphans : Bool) (model : Model K) (live : Live K)
    (steps : List (Step K)) : Prop where
  perm : steps.Perm (emitted mode deleteOrphans model live)
  groups : InOrder (fun s t => s.kind.group < t.kind.group) steps
  cubes : ∀ kind, ((steps.filter (·.kind = kind)).filterMap Step.cube?).Sublist model.cubes.toList
  deletedCubes : (steps.filterMap Step.leftCube?).Sublist (slots live.cubes)
  parentsFirst : InOrder (fun s t => ∃ parent ∈ s.bone?, ∃ child ∈ t.bone?,
    TransGen (Model.ParentOf model.bones) child.id parent.id) steps
  childrenFirst : InOrder (fun s t => ∃ child ∈ s.leftBone?, ∃ parent ∈ t.leftBone?,
    LiveParent live.bones child.index parent.index ∧ ∃ way, WayUp live.bones child.index way) steps

section Bones

variable {bones : Model.Bones K} {all : Bool} {m : Matching (Model.Bone K) (Live.Bone K)}
  {s : Step K}

lemma boneStep?_bone? {pair : Model.Bone K × Option (Slot (Live.Bone K))}
    (h : boneStep? bones all pair = some s) : s.bone? = some pair.1 := by
  rw [Step.bone?, (boneStep?_eq_some.mp h).2]

lemma boneStep?_kind {pair : Model.Bone K × Option (Slot (Live.Bone K))}
    (h : boneStep? bones all pair = some s) : s.kind = .createBone ∨ s.kind = .updateBone := by
  have hop := (boneStep?_eq_some.mp h).1
  obtain ⟨bone, claim⟩ := pair
  cases claim with
  | none =>
    rw [Step.kind, ← Option.some.inj hop]
    exact .inl rfl
  | some slot =>
    simp only [boneOp?] at hop
    split_ifs at hop
    rw [Step.kind, ← Option.some.inj hop]
    exact .inr rfl

lemma boneStep?_group {pair : Model.Bone K × Option (Slot (Live.Bone K))}
    (h : boneStep? bones all pair = some s) : s.kind.group = 0 := by
  rcases boneStep?_kind h with h | h <;> rw [h, OpKind.group]

lemma exists_pair_of_find? {id : String}
    (h : ((m.pairs.find? fun pair => pair.1.id == id).bind (boneStep? bones all)) = some s) :
    ∃ pair ∈ m.pairs, pair.1.id = id ∧ boneStep? bones all pair = some s := by
  obtain ⟨pair, hpair, hs⟩ := Option.bind_eq_some_iff.mp h
  exact ⟨pair, List.mem_of_find?_eq_some hpair, by simpa using List.find?_some hpair, hs⟩

lemma mem_boneSteps (h : s ∈ boneSteps bones all m) :
    ∃ pair ∈ m.pairs, boneStep? bones all pair = some s := by
  obtain ⟨id, -, hs⟩ := List.mem_filterMap.mp h
  obtain ⟨pair, hpair, -, hs⟩ := exists_pair_of_find? hs
  exact ⟨pair, hpair, hs⟩

lemma boneSteps_perm (hids : m.pairs.map (·.1.id) = bones.ids) :
    (boneSteps bones all m).Perm (m.pairs.filterMap (boneStep? bones all)) := by
  refine ((Model.topDown_perm bones).filterMap _).trans (.of_eq ?_)
  rw [← hids, List.filterMap_map]
  apply List.filterMap_congr
  intro pair hp
  have hnodup : (m.pairs.map (·.1.id)).Nodup := hids ▸ bones.nodup
  simp only [Function.comp_apply, find?_key hnodup hp, Option.bind_some]

lemma boneSteps_pairwise {limits : Limits} (h : Model.SoundBones limits bones) :
    ((boneSteps bones all m).filterMap Step.bone?).Pairwise fun child parent =>
      ¬ TransGen (Model.ParentOf bones) child.id parent.id := by
  refine List.pairwise_filterMap.mpr ?_
  refine (Model.topDown_pairwise h).filterMap _ fun x y hxy s hs t ht child hc parent hp => ?_
  obtain ⟨pair, -, rfl, hstep⟩ := exists_pair_of_find? hs
  obtain ⟨pair', -, rfl, hstep'⟩ := exists_pair_of_find? ht
  obtain rfl := Option.some.inj ((boneStep?_bone? hstep).symm.trans hc)
  obtain rfl := Option.some.inj ((boneStep?_bone? hstep').symm.trans hp)
  exact hxy

end Bones

section Cubes

variable {bones : Model.Bones K} {all : Bool} {m : Matching (Model.Cube K) (Live.Cube K)}
  {kind : OpKind} {s : Step K}

lemma cubeStep?_cube? {pair : Model.Cube K × Option (Slot (Live.Cube K))}
    (h : cubeStep? bones all pair = some s) : s.cube? = some pair.1 := by
  rw [Step.cube?, (cubeStep?_eq_some.mp h).2]

lemma cubeStep?_kind {pair : Model.Cube K × Option (Slot (Live.Cube K))}
    (h : cubeStep? bones all pair = some s) : s.kind = .createCube ∨ s.kind = .updateCube := by
  have hop := (cubeStep?_eq_some.mp h).1
  obtain ⟨cube, claim⟩ := pair
  cases claim with
  | none =>
    rw [Step.kind, ← Option.some.inj hop]
    exact .inl rfl
  | some slot =>
    simp only [cubeOp?] at hop
    split_ifs at hop
    rw [Step.kind, ← Option.some.inj hop]
    exact .inr rfl

lemma mem_cubeSteps (h : s ∈ cubeSteps bones all m kind) :
    s.kind = kind ∧ ∃ pair ∈ m.pairs, cubeStep? bones all pair = some s := by
  obtain ⟨hs, hkind⟩ := List.mem_filter.mp h
  exact ⟨of_decide_eq_true hkind, List.mem_filterMap.mp hs⟩

lemma cubeSteps_update : cubeSteps bones all m .updateCube =
    (m.pairs.filterMap (cubeStep? bones all)).filter fun s => !decide (s.kind = .createCube) := by
  refine List.filter_congr fun s hs => ?_
  obtain ⟨pair, -, hs⟩ := List.mem_filterMap.mp hs
  rcases cubeStep?_kind hs with h | h <;> simp [h]

lemma cubeSteps_perm : (cubeSteps bones all m .createCube ++ cubeSteps bones all m .updateCube).Perm
    (m.pairs.filterMap (cubeStep? bones all)) := by
  rw [cubeSteps_update]
  exact List.filter_append_perm _ _

lemma filter_cubeSteps (kind other : OpKind) :
    (cubeSteps bones all m kind).filter (·.kind = other) =
      if kind = other then cubeSteps bones all m kind else [] := by
  split_ifs with h
  · refine List.filter_eq_self.mpr fun s hs => ?_
    simpa [h] using (mem_cubeSteps hs).1
  · refine List.filter_eq_nil_iff.mpr fun s hs => ?_
    simpa [(mem_cubeSteps hs).1] using h

lemma cubeSteps_cubes (kind : OpKind) :
    ((cubeSteps bones all m kind).filterMap Step.cube?).Sublist (m.pairs.map Prod.fst) := by
  refine (List.filter_sublist.filterMap Step.cube?).trans ?_
  rw [List.filterMap_filterMap, ← List.filterMap_eq_map]
  refine filterMap_sublist_filterMap fun pair _ cube h => ?_
  obtain ⟨s, hs, hcube⟩ := Option.bind_eq_some_iff.mp h
  exact (cubeStep?_cube? hs).symm.trans hcube

end Cubes

section Deletions

variable {live : List (Live.Bone K)} {orphans : List (Slot (Live.Bone K))}

omit [Scalar K] in
lemma leftBoneSteps_perm : (leftBoneSteps live orphans).Perm (orphans.map leftBoneStep) :=
  (List.mergeSort_perm _ _).map _

omit [Scalar K] in
lemma leftBoneSteps_pairwise : ((leftBoneSteps live orphans).filterMap Step.leftBone?).Pairwise
    fun parent child => depth (links live) child.index ≤ depth (links live) parent.index := by
  rw [leftBoneSteps, filterMap_map_some leftBone?_leftBoneStep, List.map_id']
  refine (List.pairwise_mergeSort ?_ ?_ orphans).imp of_decide_eq_true
  · intro a b c hab hbc
    have hle := (of_decide_eq_true hbc).trans (of_decide_eq_true hab)
    exact decide_eq_true hle
  · intro a b
    simpa using Nat.le_total _ _

end Deletions

section Sequence

variable {mode : Mode} {deleteOrphans : Bool} {model : Model K} {live : Live K} {s : Step K}

lemma mem_desiredSteps (h : s ∈ desiredSteps mode model live) :
    (∃ pair ∈ (boneMatching model live).pairs,
        boneStep? model.bones mode.comparesAll pair = some s) ∨
      ∃ pair ∈ (cubeMatching model live).pairs,
        cubeStep? model.bones mode.comparesAll pair = some s := by
  rcases List.mem_append.mp h with h | h
  · exact .inl (mem_boneSteps h)
  · rcases List.mem_append.mp h with h | h
    · exact .inr (mem_cubeSteps h).2
    · exact .inr (mem_cubeSteps h).2

lemma leftBone?_desired (h : s ∈ desiredSteps mode model live) : s.leftBone? = none := by
  rcases mem_desiredSteps h with ⟨pair, -, hs⟩ | ⟨pair, -, hs⟩
  · rw [Step.leftBone?, (boneStep?_eq_some.mp hs).2]
  · rw [Step.leftBone?, (cubeStep?_eq_some.mp hs).2]

lemma leftCube?_desired (h : s ∈ desiredSteps mode model live) : s.leftCube? = none := by
  rcases mem_desiredSteps h with ⟨pair, -, hs⟩ | ⟨pair, -, hs⟩
  · rw [Step.leftCube?, (boneStep?_eq_some.mp hs).2]
  · rw [Step.leftCube?, (cubeStep?_eq_some.mp hs).2]

omit [Scalar K] in
lemma mem_leftSteps (h : s ∈ leftSteps mode deleteOrphans model live) :
    (∃ slot ∈ (cubeMatching model live).orphans model.cubes.toList, s = leftCubeStep slot) ∨
      ∃ slot ∈ (boneMatching model live).orphans model.bones.toList, s = leftBoneStep slot := by
  rw [leftSteps] at h
  split_ifs at h
  · rcases List.mem_append.mp h with h | h
    · obtain ⟨slot, hslot, rfl⟩ := List.mem_map.mp h
      exact .inl ⟨slot, hslot, rfl⟩
    · obtain ⟨slot, hslot, rfl⟩ := List.mem_map.mp (leftBoneSteps_perm.mem_iff.mp h)
      exact .inr ⟨slot, hslot, rfl⟩
  · cases h

lemma mem_opsFor {op : Op K} (h : op ∈ opsFor mode deleteOrphans model live) :
    (∃ pair ∈ (boneMatching model live).pairs, boneOp? model.bones mode.comparesAll pair = some op) ∨
      (∃ pair ∈ (cubeMatching model live).pairs,
        cubeOp? model.bones mode.comparesAll pair = some op) ∨
      op.kind = .deleteCube ∨ op.kind = .deleteBone := by
  rw [← sequence_map_op] at h
  obtain ⟨s, hs, rfl⟩ := List.mem_map.mp h
  rcases List.mem_append.mp hs with hs | hs
  · rcases mem_desiredSteps hs with ⟨pair, hp, hs⟩ | ⟨pair, hp, hs⟩
    · exact .inl ⟨pair, hp, (boneStep?_eq_some.mp hs).1⟩
    · exact .inr (.inl ⟨pair, hp, (cubeStep?_eq_some.mp hs).1⟩)
  · rcases mem_leftSteps hs with ⟨_, -, rfl⟩ | ⟨_, -, rfl⟩
    · exact .inr (.inr (.inl rfl))
    · exact .inr (.inr (.inr rfl))

omit [Scalar K] in
lemma bone?_left (h : s ∈ leftSteps mode deleteOrphans model live) : s.bone? = none := by
  rcases mem_leftSteps h with ⟨_, _, rfl⟩ | ⟨_, _, rfl⟩ <;> rfl

omit [Scalar K] in
lemma cube?_left (h : s ∈ leftSteps mode deleteOrphans model live) : s.cube? = none := by
  rcases mem_leftSteps h with ⟨_, _, rfl⟩ | ⟨_, _, rfl⟩ <;> rfl

lemma exists_pair_of_cube? {c : Model.Cube K} (hs : s ∈ sequence mode deleteOrphans model live)
    (hc : s.cube? = some c) : ∃ claim, (c, claim) ∈ (cubeMatching model live).pairs ∧
      cubeStep? model.bones mode.comparesAll (c, claim) = some s := by
  rcases List.mem_append.mp hs with hs | hs
  · rcases mem_desiredSteps hs with ⟨_, -, hstep⟩ | ⟨⟨_, claim⟩, hp, hstep⟩
    · rw [Step.cube?, (boneStep?_eq_some.mp hstep).2] at hc
      cases hc
    · obtain rfl := Option.some.inj ((cubeStep?_cube? hstep).symm.trans hc)
      exact ⟨claim, hp, hstep⟩
  · rw [cube?_left hs] at hc
    cases hc

omit [Scalar K] in
lemma boneMatching_ids (model : Model K) (live : Live K) :
    (boneMatching model live).pairs.map (·.1.id) = model.bones.ids := by
  rw [Roster.ids, ← matchUp_pairs_fst (slots live.bones) model.bones.toList, List.map_map]
  rfl

lemma sequence_perm :
    (sequence mode deleteOrphans model live).Perm (emitted mode deleteOrphans model live) := by
  refine ((boneSteps_perm (boneMatching_ids model live)).append cubeSteps_perm).append ?_
  rw [leftSteps]
  split_ifs
  · exact leftBoneSteps_perm.append_left _
  · exact .refl _

section Emitted

variable {γ : Type} {key : Step K → Option γ}

lemma filterMap_emitted_bones
    (hcube : ∀ pair s, cubeStep? model.bones mode.comparesAll pair = some s → key s = none)
    (hleft : ∀ slot, key (leftCubeStep slot) = none) :
    (emitted mode deleteOrphans model live).filterMap key =
      (boneMatching model live).pairs.filterMap
          (fun pair => (boneStep? model.bones mode.comparesAll pair).bind key) ++
        (if mode = .replace ∧ deleteOrphans then (boneMatching model live).orphans model.bones.toList
          else []).filterMap fun slot => key (leftBoneStep slot) := by
  have hcubes : ((cubeMatching model live).pairs.filterMap
      (cubeStep? model.bones mode.comparesAll)).filterMap key = [] :=
    List.filterMap_eq_nil_iff.mpr fun s hs => by
      obtain ⟨pair, -, hs⟩ := List.mem_filterMap.mp hs
      exact hcube pair s hs
  rw [emitted, List.filterMap_append, List.filterMap_append, hcubes, List.append_nil,
    List.filterMap_filterMap]
  split_ifs
  · rw [List.filterMap_append, filterMap_map_none hleft, List.nil_append, List.filterMap_map]
    rfl
  · rfl

lemma filterMap_emitted_cubes
    (hbone : ∀ pair s, boneStep? model.bones mode.comparesAll pair = some s → key s = none)
    (hleft : ∀ slot, key (leftBoneStep slot) = none) :
    (emitted mode deleteOrphans model live).filterMap key =
      (cubeMatching model live).pairs.filterMap
          (fun pair => (cubeStep? model.bones mode.comparesAll pair).bind key) ++
        (if mode = .replace ∧ deleteOrphans then (cubeMatching model live).orphans model.cubes.toList
          else []).filterMap fun slot => key (leftCubeStep slot) := by
  have hbones : ((boneMatching model live).pairs.filterMap
      (boneStep? model.bones mode.comparesAll)).filterMap key = [] :=
    List.filterMap_eq_nil_iff.mpr fun s hs => by
      obtain ⟨pair, -, hs⟩ := List.mem_filterMap.mp hs
      exact hbone pair s hs
  rw [emitted, List.filterMap_append, List.filterMap_append, hbones, List.nil_append,
    List.filterMap_filterMap]
  split_ifs
  · rw [List.filterMap_append, filterMap_map_none hleft, List.append_nil, List.filterMap_map]
    rfl
  · rfl

end Emitted

omit [Scalar K] in
lemma pairwise_groups_of_const {steps : List (Step K)} {n : ℕ} (h : ∀ s ∈ steps, s.kind.group = n) :
    steps.Pairwise fun s t => s.kind.group ≤ t.kind.group :=
  List.pairwise_of_forall_mem_list fun s hs t ht => (h s hs).trans_le (h t ht).ge

lemma desiredSteps_groups : (∀ s ∈ desiredSteps mode model live, s.kind.group ≤ 2) ∧
    (desiredSteps mode model live).Pairwise fun s t => s.kind.group ≤ t.kind.group := by
  have hbones : ∀ s ∈ boneSteps model.bones mode.comparesAll (boneMatching model live),
      s.kind.group = 0 := fun s hs => by
    obtain ⟨pair, -, hs⟩ := mem_boneSteps hs
    exact boneStep?_group hs
  have hcreate : ∀ s ∈ cubeSteps model.bones mode.comparesAll (cubeMatching model live) .createCube,
      s.kind.group = 1 := fun s hs => by rw [(mem_cubeSteps hs).1, OpKind.group]
  have hupdate : ∀ s ∈ cubeSteps model.bones mode.comparesAll (cubeMatching model live) .updateCube,
      s.kind.group = 2 := fun s hs => by rw [(mem_cubeSteps hs).1, OpKind.group]
  refine ⟨fun s hs => ?_, List.pairwise_append.mpr ⟨pairwise_groups_of_const hbones,
    List.pairwise_append.mpr ⟨pairwise_groups_of_const hcreate, pairwise_groups_of_const hupdate,
      fun s hs t ht => ?_⟩, fun s hs t ht => ?_⟩⟩
  · simp only [desiredSteps, List.mem_append] at hs
    rcases hs with hs | hs | hs
    · rw [hbones s hs]; omega
    · rw [hcreate s hs]; omega
    · rw [hupdate s hs]
  · rw [hcreate s hs, hupdate t ht]; omega
  · rw [hbones s hs]; omega

omit [Scalar K] in
lemma leftSteps_groups : (∀ s ∈ leftSteps mode deleteOrphans model live, 3 ≤ s.kind.group) ∧
    (leftSteps mode deleteOrphans model live).Pairwise fun s t => s.kind.group ≤ t.kind.group := by
  have hcubes : ∀ s ∈ ((cubeMatching model live).orphans model.cubes.toList).map leftCubeStep,
      s.kind.group = 3 := fun s hs => by
    obtain ⟨slot, -, rfl⟩ := List.mem_map.mp hs
    rfl
  have hbones : ∀ s ∈ leftBoneSteps live.bones ((boneMatching model live).orphans model.bones.toList),
      s.kind.group = 4 := fun s hs => by
    obtain ⟨slot, -, rfl⟩ := List.mem_map.mp hs
    rfl
  constructor
  · intro s hs
    rcases mem_leftSteps hs with ⟨_, _, rfl⟩ | ⟨_, _, rfl⟩
    · exact le_refl 3
    · exact Nat.le_succ 3
  · rw [leftSteps]
    split_ifs
    · refine List.pairwise_append.mpr ⟨pairwise_groups_of_const hcubes,
        pairwise_groups_of_const hbones, fun s hs t ht => ?_⟩
      rw [hcubes s hs, hbones t ht]
      omega
    · exact .nil

lemma sequence_groups :
    (sequence mode deleteOrphans model live).Pairwise fun s t => s.kind.group ≤ t.kind.group := by
  refine List.pairwise_append.mpr ⟨desiredSteps_groups.2, leftSteps_groups.2, fun s hs t ht => ?_⟩
  have hs2 := desiredSteps_groups.1 s hs
  have ht3 := leftSteps_groups.1 t ht
  omega

lemma sequence_cubes (kind : OpKind) :
    (((sequence mode deleteOrphans model live).filter (·.kind = kind)).filterMap
      Step.cube?).Sublist model.cubes.toList := by
  have hleft : ((leftSteps mode deleteOrphans model live).filter (·.kind = kind)).filterMap
      Step.cube? = [] :=
    List.filterMap_eq_nil_iff.mpr fun s hs => cube?_left (List.mem_filter.mp hs).1
  have hbones : ((boneSteps model.bones mode.comparesAll (boneMatching model live)).filter
      (·.kind = kind)).filterMap Step.cube? = [] :=
    List.filterMap_eq_nil_iff.mpr fun s hs => by
      obtain ⟨pair, -, hs⟩ := mem_boneSteps (List.mem_filter.mp hs).1
      rw [Step.cube?, (boneStep?_eq_some.mp hs).2]
  have hmodel := matchUp_pairs_fst (slots live.cubes) model.cubes.toList
  rw [sequence, desiredSteps]
  simp only [List.filter_append, List.filterMap_append, hleft, hbones, List.nil_append,
    List.append_nil, filter_cubeSteps]
  cases kind with
  | createCube => simpa [hmodel] using cubeSteps_cubes (m := cubeMatching model live) .createCube
  | updateCube => simpa [hmodel] using cubeSteps_cubes (m := cubeMatching model live) .updateCube
  | _ => simp

lemma sequence_deletedCubes :
    ((sequence mode deleteOrphans model live).filterMap Step.leftCube?).Sublist
      (slots live.cubes) := by
  have hdesired : (desiredSteps mode model live).filterMap Step.leftCube? = [] :=
    List.filterMap_eq_nil_iff.mpr fun s hs => leftCube?_desired hs
  rw [sequence, List.filterMap_append, hdesired, List.nil_append, leftSteps]
  split_ifs
  · rw [List.filterMap_append, leftBoneSteps, filterMap_map_none leftCube?_leftBoneStep,
      List.append_nil, filterMap_map_some leftCube?_leftCubeStep, List.map_id']
    exact orphans_sublist (slots live.cubes) model.cubes.toList
  · exact List.nil_sublist _

lemma sequence_bones {limits : Limits} (h : Model.SoundBones limits model.bones) :
    ((sequence mode deleteOrphans model live).filterMap Step.bone?).Pairwise fun child parent =>
      ¬ TransGen (Model.ParentOf model.bones) child.id parent.id := by
  have hleft : (leftSteps mode deleteOrphans model live).filterMap Step.bone? = [] :=
    List.filterMap_eq_nil_iff.mpr fun s hs => bone?_left hs
  have hcubes : ∀ kind, (cubeSteps model.bones mode.comparesAll (cubeMatching model live)
      kind).filterMap Step.bone? = [] := fun kind =>
    List.filterMap_eq_nil_iff.mpr fun s hs => by
      obtain ⟨-, pair, -, hs⟩ := mem_cubeSteps hs
      rw [Step.bone?, (cubeStep?_eq_some.mp hs).2]
  simp only [sequence, desiredSteps, List.filterMap_append, hleft, hcubes, List.append_nil]
  exact boneSteps_pairwise h

lemma sequence_deletedBones :
    ((sequence mode deleteOrphans model live).filterMap Step.leftBone?).Pairwise
      fun parent child =>
        depth (links live.bones) child.index ≤ depth (links live.bones) parent.index := by
  have hdesired : (desiredSteps mode model live).filterMap Step.leftBone? = [] :=
    List.filterMap_eq_nil_iff.mpr fun s hs => leftBone?_desired hs
  rw [sequence, List.filterMap_append, hdesired, List.nil_append, leftSteps]
  split_ifs
  · rw [List.filterMap_append, filterMap_map_none leftBone?_leftCubeStep, List.nil_append]
    exact leftBoneSteps_pairwise
  · exact .nil

lemma sequence_sequenced {limits : Limits} (h : Model.SoundBones limits model.bones) :
    Sequenced mode deleteOrphans model live (sequence mode deleteOrphans model live) where
  perm := sequence_perm
  groups := inOrder_of_pairwise (sequence_groups.imp fun h => Nat.not_lt.mpr h) fun s _ h =>
    Nat.lt_irrefl _ h
  cubes := sequence_cubes
  deletedCubes := sequence_deletedCubes
  parentsFirst := inOrder_of_pairwise_filterMap (sequence_bones h) fun bone => h.acyclic bone.id
  childrenFirst := by
    refine inOrder_of_pairwise_filterMap (sequence_deletedBones.imp ?_) ?_
    · rintro parent child hle ⟨hparent, way, hway⟩
      exact hle.not_gt (hway.depth_parent_lt hparent)
    · rintro slot ⟨hparent, way, hway⟩
      exact Nat.lt_irrefl _ (hway.depth_parent_lt hparent)

end Sequence

/-- The operations of a plan are those that come up, each of them once, in an order in which an
applier meets bones before what hangs from them. -/
theorem ofModel_sequenced {limits : Limits} {spec : Spec K} {mode : Mode} {deleteOrphans : Bool}
    {model : Model K} {live : Live K} {plan : Plan K}
    (hmodel : Model.ofSpec limits spec = .ok model)
    (hplan : ofModel mode deleteOrphans model live = .ok plan) :
    ∃ steps : List (Step K), steps.map Step.op = plan.ops ∧
      Sequenced mode deleteOrphans model live steps := by
  obtain ⟨-, -, rfl⟩ := ofModel_ok.mp hplan
  exact ⟨sequence mode deleteOrphans model live, sequence_map_op ..,
    sequence_sequenced (Model.sound_bones hmodel)⟩

def strayBones : Live Float where
  bones := [Live.Bone.named "stray", { Live.Bone.named "stray tip" with parent := some "stray" }]

theorem ofModel_sequenced_critter :
    ∃ m, Model.ofSpec .standard (Spec.critter : Spec Float) = .ok m ∧
      ∃ plan, ofModel .replace true m strayBones = .ok plan ∧
        ∃ steps : List (Step Float), steps.map Step.op = plan.ops ∧
          Sequenced .replace true m strayBones steps := by
  obtain ⟨m, hm⟩ : ∃ m, Model.ofSpec .standard (Spec.critter : Spec Float) = .ok m :=
    Attempts.exists_ok (by decide +kernel)
  obtain ⟨plan, hplan⟩ : ∃ plan, ofModel .replace true m strayBones = .ok plan :=
    ⟨_, ofModel_ok.mpr ⟨rfl, rfl, rfl⟩⟩
  exact ⟨m, hm, plan, hplan, ofModel_sequenced hm hplan⟩

end Armature.Plan
