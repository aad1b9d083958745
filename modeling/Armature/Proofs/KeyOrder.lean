import Armature.Plan.Sequence
import Armature.Proofs.LiveDepths
import Armature.Proofs.Ranks
import Armature.Proofs.Sequencing

/-! The order of a plan is that of its operations sorted by their keys as they come up. -/

namespace Armature

section Sorts

variable {α β κ : Type} [LinearOrder κ] {key : α → κ} {l l' : List α}

lemma key_trans (key : α → κ) (a b c : α) (hab : decide (key a ≤ key b) = true)
    (hbc : decide (key b ≤ key c) = true) : decide (key a ≤ key c) = true :=
  decide_eq_true ((of_decide_eq_true hab).trans (of_decide_eq_true hbc))

lemma key_total (key : α → κ) (a b : α) :
    (decide (key a ≤ key b) || decide (key b ≤ key a)) = true := by
  simpa using le_total (key a) (key b)

lemma sortedBy_perm (key : α → κ) (l : List α) : (sortedBy key l).Perm l := List.mergeSort_perm _ _

lemma sortedBy_pairwise (key : α → κ) (l : List α) :
    (sortedBy key l).Pairwise fun a b => key a ≤ key b :=
  (List.pairwise_mergeSort (key_trans key) (key_total key) l).imp of_decide_eq_true

lemma sortedBy_of_pairwise (h : l.Pairwise fun a b => key a ≤ key b) : sortedBy key l = l :=
  List.mergeSort_of_pairwise (h.imp decide_eq_true)

lemma map_sortedBy (f : β → α) (l : List β) :
    (sortedBy (key ∘ f) l).map f = sortedBy key (l.map f) :=
  List.map_mergeSort fun _ _ _ _ => rfl

lemma filter_sortedBy (k : κ) : (sortedBy key l).filter (key · = k) = l.filter (key · = k) := by
  have hsame : (l.filter (key · = k)).Pairwise fun a b => decide (key a ≤ key b) = true := by
    refine List.pairwise_of_forall_mem_list fun a ha b hb => ?_
    have hka : key a = k := by simpa using (List.mem_filter.mp ha).2
    have hkb : key b = k := by simpa using (List.mem_filter.mp hb).2
    simp [hka, hkb]
  have hsub : (l.filter (key · = k)).Sublist (sortedBy key l) :=
    List.sublist_mergeSort (key_trans key) (key_total key) hsame List.filter_sublist
  have hfilter := hsub.filter (key · = k)
  simp only [List.filter_filter, Bool.and_self] at hfilter
  exact (hfilter.eq_of_length ((sortedBy_perm key l).filter _).length_eq.symm).symm

lemma mem_of_filter_key (h : ∀ k, l.filter (key · = k) = l'.filter (key · = k)) {a : α}
    (ha : a ∈ l) : a ∈ l' := by
  have hfilter : a ∈ l'.filter (key · = key a) := h (key a) ▸ List.mem_filter.mpr ⟨ha, by simp⟩
  exact (List.mem_filter.mp hfilter).1

lemma key_le_of_mem {a b : α} (hl : (b :: l).Pairwise fun a b => key a ≤ key b)
    (ha : a ∈ b :: l) : key b ≤ key a := by
  rcases List.mem_cons.mp ha with rfl | ha
  · exact le_rfl
  · exact List.rel_of_pairwise_cons hl ha

/-- Two sorted lists are the same if they have the same part at each key. -/
lemma eq_of_filter_key (hl : l.Pairwise fun a b => key a ≤ key b)
    (hl' : l'.Pairwise fun a b => key a ≤ key b)
    (h : ∀ k, l.filter (key · = k) = l'.filter (key · = k)) : l = l' := by
  induction l generalizing l' with
  | nil => exact (List.eq_nil_iff_forall_not_mem.mpr fun a ha =>
      List.not_mem_nil (mem_of_filter_key (fun k => (h k).symm) ha)).symm
  | cons a l ih =>
    cases l' with
    | nil => exact (List.not_mem_nil (mem_of_filter_key h List.mem_cons_self)).elim
    | cons b l' =>
      have hab : key a ≤ key b :=
        key_le_of_mem hl (mem_of_filter_key (fun k => (h k).symm) List.mem_cons_self)
      have hba : key b ≤ key a := key_le_of_mem hl' (mem_of_filter_key h List.mem_cons_self)
      have hkey : key b = key a := le_antisymm hba hab
      obtain rfl : a = b := by
        have hhead := h (key a)
        rw [List.filter_cons_of_pos (by simp), List.filter_cons_of_pos (by simp [hkey])] at hhead
        exact (List.cons.inj hhead).1
      refine congrArg (a :: ·) (ih hl.of_cons hl'.of_cons fun k => ?_)
      have htail := h k
      by_cases hk : key a = k
      · rw [List.filter_cons_of_pos (by simp [hk]), List.filter_cons_of_pos (by simp [hk])] at htail
        exact (List.cons.inj htail).2
      · rwa [List.filter_cons_of_neg (by simp [hk]), List.filter_cons_of_neg (by simp [hk])] at htail

lemma eq_sortedBy (hl : l.Pairwise fun a b => key a ≤ key b)
    (h : ∀ k, l.filter (key · = k) = l'.filter (key · = k)) : l = sortedBy key l' :=
  eq_of_filter_key hl (sortedBy_pairwise key l') fun k => (h k).trans (filter_sortedBy k).symm

lemma sortedBy_append (h : ∀ a ∈ l, ∀ b ∈ l', key a ≤ key b) :
    sortedBy key (l ++ l') = sortedBy key l ++ sortedBy key l' := by
  refine (eq_sortedBy ?_ fun k => ?_).symm
  · refine List.pairwise_append.mpr ⟨sortedBy_pairwise key l, sortedBy_pairwise key l', ?_⟩
    intro a ha b hb
    exact h a ((sortedBy_perm key l).mem_iff.mp ha) b ((sortedBy_perm key l').mem_iff.mp hb)
  · rw [List.filter_append, List.filter_append, filter_sortedBy, filter_sortedBy]

lemma eq_sortedBy_of_perm (h : l.Perm l') (hl : l.Pairwise fun a b => key a < key b) :
    l = sortedBy key l' := by
  have hnodup : (l.map key).Nodup := List.pairwise_map.mpr (hl.imp ne_of_lt)
  refine List.Perm.eq_of_pairwise ?_ (hl.imp le_of_lt) (sortedBy_pairwise key l')
    (h.trans (sortedBy_perm key l').symm)
  intro a b ha hb hab hba
  have hbl : b ∈ l := h.mem_iff.mpr ((sortedBy_perm key l').mem_iff.mp hb)
  exact List.inj_on_of_nodup_map hnodup ha hbl (le_antisymm hab hba)

/-- Where a test tells the smaller key from the greater one, the sort takes what passes it first. -/
lemma filter_append_filter_not {p : α → Bool} {k k' : κ} (hlt : k < k')
    (hkey : ∀ a ∈ l, key a = if p a then k else k') :
    l.filter p ++ l.filter (!p ·) = sortedBy key l := by
  have hp : ∀ a ∈ l.filter p, key a = k := by
    intro a ha
    obtain ⟨ha, hp⟩ := List.mem_filter.mp ha
    rw [hkey a ha, if_pos hp]
  have hn : ∀ a ∈ l.filter (!p ·), key a = k' := by
    intro a ha
    obtain ⟨ha, hp⟩ := List.mem_filter.mp ha
    rw [hkey a ha, if_neg (by simpa using hp)]
  refine eq_sortedBy (List.pairwise_append.mpr ⟨?_, ?_, ?_⟩) fun k₀ => ?_
  · exact List.pairwise_of_forall_mem_list fun a ha b hb => ((hp a ha).trans (hp b hb).symm).le
  · exact List.pairwise_of_forall_mem_list fun a ha b hb => ((hn a ha).trans (hn b hb).symm).le
  · exact fun a ha b hb => (hp a ha).trans_le (hlt.le.trans (hn b hb).ge)
  rw [List.filter_append]
  by_cases hk : k = k₀
  · have hnone : (l.filter (!p ·)).filter (key · = k₀) = [] := by
      refine List.filter_eq_nil_iff.mpr fun a ha => ?_
      simp [hn a ha, ← hk, hlt.ne']
    rw [hnone, List.append_nil, List.filter_filter]
    refine List.filter_congr fun a ha => ?_
    cases hpa : p a <;> simp [hkey a ha, hpa, ← hk, hlt.ne']
  · have hnone : (l.filter p).filter (key · = k₀) = [] := by
      refine List.filter_eq_nil_iff.mpr fun a ha => ?_
      simp [hp a ha, hk]
    rw [hnone, List.nil_append, List.filter_filter]
    refine List.filter_congr fun a ha => ?_
    cases hpa : p a <;> simp [hkey a ha, hpa, hk]

end Sorts

namespace Plan

section Keys

variable {K : Type} {greatest : ℕ} {bones : Model.Bones K} {live : List (Live.Bone K)} {s : Step K}

def Step.pending (s : Step K) : Pending K where
  op := s.op
  subject :=
    match s.subject with
    | .bone bone _ => .desiredBone bone.id
    | .leftBone slot => .liveBone slot.index
    | .cube .. | .leftCube _ => .cube

def Step.key (greatest : ℕ) (bones : Model.Bones K) (live : List (Live.Bone K)) (s : Step K) :
    ℕ ×ₗ ℕ ×ₗ ℕ :=
  s.pending.key greatest (Model.ranks bones) (links live)

lemma inPlace_pending (steps : List (Step K)) :
    inPlace greatest bones live (steps.map Step.pending) =
      (sortedBy (Step.key greatest bones live) steps).map Step.op := by
  rw [inPlace, ← map_sortedBy, List.map_map]
  rfl

lemma key_leftCubeStep (slot : Slot (Live.Cube K)) :
    (leftCubeStep slot).key greatest bones live =
      toLex (2, toLex (0, OpKind.deleteCube.priority)) := rfl

lemma key_leftBoneStep (slot : Slot (Live.Bone K)) :
    (leftBoneStep slot).key greatest bones live =
      toLex (3, toLex (greatest - depth (links live) slot.index, OpKind.deleteBone.priority)) := rfl

lemma key_le_of_group {a b : ℕ ×ₗ ℕ ×ₗ ℕ} (h : (ofLex a).1 < (ofLex b).1) : a ≤ b :=
  Prod.Lex.le_iff.mpr (.inl h)

variable [Scalar K] {all : Bool} {pairBone : Model.Bone K × Option (Slot (Live.Bone K))}
  {pairCube : Model.Cube K × Option (Slot (Live.Cube K))}

lemma key_boneStep (h : boneStep? bones all pairBone = some s) :
    s.key greatest bones live =
      toLex (0, toLex ((Model.ranks bones)[pairBone.1.id]?.getD greatest, s.kind.priority)) := by
  have hpending : s.pending.subject = .desiredBone pairBone.1.id := by
    rw [Step.pending, (boneStep?_eq_some.mp h).2]
  have hkind : s.pending.op.kind = s.kind := rfl
  rcases boneStep?_kind h with hk | hk <;> rw [Step.key, Pending.key, hpending, hkind, hk]

lemma key_cubeStep (h : cubeStep? bones all pairCube = some s) :
    s.key greatest bones live = toLex (1, toLex (0, s.kind.priority)) := by
  have hkind : s.pending.op.kind = s.kind := rfl
  rcases cubeStep?_kind h with hk | hk <;> rw [Step.key, Pending.key, hkind, hk]

lemma boneSteps_sorted {m : Matching (Model.Bone K) (Live.Bone K)}
    (hids : m.pairs.map (·.1.id) = bones.ids) :
    boneSteps bones all m =
      sortedBy (Step.key greatest bones live) (m.pairs.filterMap (boneStep? bones all)) := by
  refine eq_sortedBy_of_perm (boneSteps_perm hids) ?_
  refine (Model.topDown_ranked bones).filterMap _ fun x y hxy s hs t ht => ?_
  obtain ⟨rank, later, hrank, hlater, hlt⟩ := hxy
  obtain ⟨pair, -, rfl, hstep⟩ := exists_pair_of_find? hs
  obtain ⟨pair', -, rfl, hstep'⟩ := exists_pair_of_find? ht
  rw [key_boneStep hstep, key_boneStep hstep', hrank, hlater]
  refine Prod.Lex.toLex_lt_toLex.mpr (.inr ⟨rfl, ?_⟩)
  exact Prod.Lex.toLex_lt_toLex.mpr (.inl hlt)

lemma cubeSteps_sorted {m : Matching (Model.Cube K) (Live.Cube K)} :
    cubeSteps bones all m .createCube ++ cubeSteps bones all m .updateCube =
      sortedBy (Step.key greatest bones live) (m.pairs.filterMap (cubeStep? bones all)) := by
  rw [cubeSteps_update]
  have hlt : (toLex (1, toLex (0, OpKind.createCube.priority)) : ℕ ×ₗ ℕ ×ₗ ℕ) <
      toLex (1, toLex (0, OpKind.updateCube.priority)) := by decide
  refine filter_append_filter_not hlt fun s hs => ?_
  obtain ⟨pair, -, hs⟩ := List.mem_filterMap.mp hs
  rw [key_cubeStep hs]
  rcases cubeStep?_kind hs with h | h <;> simp [h]

omit [Scalar K] in
lemma leftCubeSteps_sorted (orphans : List (Slot (Live.Cube K))) :
    orphans.map leftCubeStep =
      sortedBy (Step.key greatest bones live) (orphans.map leftCubeStep) := by
  refine (sortedBy_of_pairwise (List.pairwise_map.mpr ?_)).symm
  exact List.pairwise_of_forall fun slot slot' => le_rfl

omit [Scalar K] in
lemma leftBoneSteps_sorted (hgreatest : live.length < greatest)
    (orphans : List (Slot (Live.Bone K))) :
    leftBoneSteps live orphans =
      sortedBy (Step.key greatest bones live) (orphans.map leftBoneStep) := by
  refine List.map_mergeSort fun a _ b _ => ?_
  have ha := depth_le live a.index
  have hb := depth_le live b.index
  rw [key_leftBoneStep, key_leftBoneStep, decide_eq_decide]
  simp only [Prod.Lex.toLex_le_toLex, lt_irrefl, true_and, le_refl, and_true, false_or,
    ← le_iff_lt_or_eq]
  omega

end Keys

section Sequence

variable {K : Type} [Scalar K] {greatest : ℕ} {mode : Mode} {deleteOrphans : Bool} {model : Model K}
  {live : Live K}

lemma desiredSteps_sorted : desiredSteps mode model live =
    sortedBy (Step.key greatest model.bones live.bones)
      ((boneMatching model live).pairs.filterMap (boneStep? model.bones mode.comparesAll) ++
        (cubeMatching model live).pairs.filterMap (cubeStep? model.bones mode.comparesAll)) := by
  rw [sortedBy_append, ← boneSteps_sorted, ← cubeSteps_sorted, desiredSteps]
  · exact boneMatching_ids model live
  · intro s hs t ht
    obtain ⟨pair, -, hs⟩ := List.mem_filterMap.mp hs
    obtain ⟨pair', -, ht⟩ := List.mem_filterMap.mp ht
    apply key_le_of_group
    simp [key_boneStep hs, key_cubeStep ht]

omit [Scalar K] in
lemma leftSteps_sorted (hgreatest : live.bones.length < greatest) :
    leftSteps mode deleteOrphans model live =
      sortedBy (Step.key greatest model.bones live.bones)
        (if mode = .replace ∧ deleteOrphans then
          ((cubeMatching model live).orphans model.cubes.toList).map leftCubeStep ++
            ((boneMatching model live).orphans model.bones.toList).map leftBoneStep
        else []) := by
  rw [leftSteps]
  split_ifs
  · rw [sortedBy_append, ← leftCubeSteps_sorted, ← leftBoneSteps_sorted hgreatest]
    intro s hs t ht
    obtain ⟨slot, -, rfl⟩ := List.mem_map.mp hs
    obtain ⟨slot', -, rfl⟩ := List.mem_map.mp ht
    apply key_le_of_group
    simp [key_leftCubeStep, key_leftBoneStep]
  · exact (sortedBy_of_pairwise .nil).symm

lemma sequence_sorted (hgreatest : live.bones.length < greatest) :
    sequence mode deleteOrphans model live =
      sortedBy (Step.key greatest model.bones live.bones)
        (emitted mode deleteOrphans model live) := by
  rw [emitted, sortedBy_append, ← desiredSteps_sorted, ← leftSteps_sorted hgreatest, sequence]
  intro s hs t ht
  rw [← (sortedBy_perm (Step.key greatest model.bones live.bones) _).mem_iff,
    ← desiredSteps_sorted] at hs
  rw [← (sortedBy_perm (Step.key greatest model.bones live.bones) _).mem_iff,
    ← leftSteps_sorted hgreatest] at ht
  apply key_le_of_group
  rcases mem_desiredSteps hs with ⟨pair, -, hs⟩ | ⟨pair, -, hs⟩ <;>
    rcases mem_leftSteps ht with ⟨slot, -, rfl⟩ | ⟨slot, -, rfl⟩
  · simp [key_boneStep hs, key_leftCubeStep]
  · simp [key_boneStep hs, key_leftBoneStep]
  · simp [key_cubeStep hs, key_leftCubeStep]
  · simp [key_cubeStep hs, key_leftBoneStep]

/-- The operations of a plan are those that come up, sorted by their keys: what has the same key stays
in the order in which it comes up. -/
theorem ofModel_inPlace {plan : Plan K} (hgreatest : live.bones.length < greatest)
    (hplan : ofModel mode deleteOrphans model live = .ok plan) :
    plan.ops = inPlace greatest model.bones live.bones
      ((emitted mode deleteOrphans model live).map Step.pending) := by
  obtain ⟨-, -, rfl⟩ := ofModel_ok.mp hplan
  rw [inPlace_pending, ← sequence_sorted hgreatest, sequence_map_op]

end Sequence

end Plan

end Armature
