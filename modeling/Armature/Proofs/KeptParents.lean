import Armature.Proofs.Reparenting

/-! The hierarchy after a merge or a patch. Parents that were not set are not written, so that the
bones hang partly as desired and partly as before; and from two hierarchies a cycle can be made. -/

namespace Armature.Plan

open Relation

variable {K : Type} [Scalar K] {mode : Mode} {deleteOrphans : Bool} {model : Model K} {live : Live K}
  {pair : Model.Bone K × Option (Slot (Live.Bone K))} {child parent id : String}

/-- Whether the plan gives the bone its parent: it creates it, or it moves it. -/
def givesParent (bones : Model.Bones K) (all : Bool) :
    Model.Bone K × Option (Slot (Live.Bone K)) → Bool
  | (_, none) => true
  | (b, some slot) =>
    (diffBone bones all b slot.entity).1.parent.isSome || (diffBone bones all b slot.entity).2

lemma parent_of_given {bones : Model.Bones K} {all : Bool} (h : givesParent bones all pair = true) :
    (settledBone bones all pair).parent = pair.1.parent := by
  obtain ⟨b, claim⟩ := pair
  cases claim with
  | none => rfl
  | some slot =>
    simp only [givesParent, diffBone, Bool.or_eq_true, Option.isSome_iff_exists] at h
    rw [parent_settledBone, newParent]
    rcases h with ⟨parent, hparent⟩ | htop
    · have hdesired : b.parent = some parent := (Option.filter_eq_some_iff.mp hparent).1
      rw [hparent, hdesired]
      simp
    · rw [if_pos htop]
      simp only [Bool.and_eq_true, Option.isNone_iff_eq_none] at htop
      exact htop.1.2.symm

lemma parent_of_not_given {bones : Model.Bones K} {all : Bool} {b : Model.Bone K}
    {slot : Slot (Live.Bone K)} (h : givesParent bones all (b, some slot) = false) :
    (settledBone bones all (b, some slot)).parent = slot.entity.parent := by
  simp only [givesParent, diffBone, Bool.or_eq_false_iff, Option.isSome_eq_false_iff,
    Option.isNone_iff_eq_none] at h
  rw [parent_settledBone, newParent, h.1, if_neg (by simp [h.2])]
  rfl

/-- The bones after the whole plan was carried out. -/
def finalBones (mode : Mode) (deleteOrphans : Bool) (model : Model K) (live : Live K) :
    List (Live.Bone K) :=
  ((Progress.start live).run (sequence mode deleteOrphans model live)).bones.map Tracked.entity

/-- One bone is to hang from another one: because it is given that parent, or because it has it and
is given none. -/
def Blend (mode : Mode) (model : Model K) (live : Live K) (child parent : String) : Prop :=
  (∃ pair ∈ (boneMatching model live).pairs,
      givesParent model.bones mode.comparesAll pair = true ∧
        pair.1.id = child ∧ pair.1.parent = some parent) ∨
    ∃ slot ∈ slots live.bones, slot.entity.id = some child ∧ slot.entity.parent = some parent ∧
      ∀ b, (b, some slot) ∈ (boneMatching model live).pairs →
        givesParent model.bones mode.comparesAll (b, some slot) = false

lemma carried_whole (hp : pair ∈ (boneMatching model live).pairs) :
    Carried mode model (sequence mode deleteOrphans model live) pair :=
  carried_of_rest (List.append_nil _).symm (fun _ hs => (List.not_mem_nil hs).elim) hp

lemma settledBone_mem_final (hp : pair ∈ (boneMatching model live).pairs) :
    settledBone model.bones mode.comparesAll pair ∈ finalBones mode deleteOrphans model live :=
  List.mem_map_of_mem ((carried_whole hp).mem_run (List.append_nil _).symm hp)

lemma blend_of_hangs (hmatched : MatchedById model live)
    (h : Hangs (finalBones mode deleteOrphans model live) child parent) :
    Blend mode model live child parent := by
  obtain ⟨_, hm, hid, hparent⟩ := h
  obtain ⟨t, ht, rfl⟩ := List.mem_map.mp hm
  rcases cases_of_mem_run (List.append_nil _).symm ht with
    ⟨⟨b, claim⟩, hp, -, rfl⟩ | ⟨slot, hslot, rfl, hopen⟩
  · obtain rfl := Option.some.inj ((hmatched.id_settledBone hp).symm.trans hid)
    cases hgiven : givesParent model.bones mode.comparesAll (b, claim) with
    | true => exact .inl ⟨_, hp, hgiven, rfl, (parent_of_given hgiven).symm.trans hparent⟩
    | false =>
      cases claim with
      | none => cases hgiven
      | some slot =>
        have hslot := mem_free_of_claim (slots_distinct live.bones) hp rfl
        refine .inr ⟨slot, hslot, hmatched _ hp slot rfl,
          (parent_of_not_given hgiven).symm.trans hparent, fun c hc => ?_⟩
        rwa [claim_unique (slots_distinct live.bones) hc hp rfl rfl rfl]
  · exact .inr ⟨slot, hslot, hid, hparent, fun b hp => (hopen b hp (carried_whole hp)).elim⟩

lemma hangs_of_blend (hmatched : MatchedById model live) (hmode : mode ≠ .replace)
    (h : Blend mode model live child parent) :
    Hangs (finalBones mode deleteOrphans model live) child parent := by
  rcases h with ⟨pair, hp, hgiven, rfl, hparent⟩ | ⟨slot, hslot, hid, hparent, hkept⟩
  · exact ⟨_, settledBone_mem_final hp, hmatched.id_settledBone hp,
      (parent_of_given hgiven).trans hparent⟩
  by_cases hclaimed : ∃ b, (b, some slot) ∈ (boneMatching model live).pairs
  · obtain ⟨b, hp⟩ := hclaimed
    refine ⟨_, settledBone_mem_final hp, (hmatched.id_settledBone hp).trans ?_,
      (parent_of_not_given (hkept b hp)).trans hparent⟩
    exact (hmatched _ hp slot rfl).symm.trans hid
  · have hfree : ⟨some slot.index, slot.entity⟩ ∈
        ((Progress.start live).run (sequence mode deleteOrphans model live)).bones :=
      unclaimed_mem_run hmode hslot fun b hp => hclaimed ⟨b, hp⟩
    exact ⟨_, List.mem_map_of_mem hfree, hid, hparent⟩

lemma hangs_iff_blend (hmatched : MatchedById model live) (hmode : mode ≠ .replace) :
    Hangs (finalBones mode deleteOrphans model live) child parent ↔
      Blend mode model live child parent :=
  ⟨blend_of_hangs hmatched, hangs_of_blend hmatched hmode⟩

/-- A cycle passes through the bone with an id. -/
def PassesBy (R : String → String → Prop) (start id : String) : Prop :=
  TransGen R start id ∧ TransGen R id start

lemma PassesBy.of_between {R : String → String → Prop} {start x id : String}
    (h : PassesBy R start x) (hxy : ReflTransGen R x id) (hyx : ReflTransGen R id x) :
    PassesBy R start id :=
  ⟨h.1.trans_left hxy, TransGen.trans_right hyx h.2⟩

lemma given_on_cycle (hlive : Forest live.bones) (hcycle : TransGen (Blend mode model live) id id) :
    ∃ pair ∈ (boneMatching model live).pairs, givesParent model.bones mode.comparesAll pair = true ∧
      PassesBy (Blend mode model live) id pair.1.id := by
  by_contra hnone
  -- otherwise it is a cycle of the live hierarchy
  refine hlive.acyclic id (transGen_of_along (P := fun _ => True) hcycle trivial ?_).1
  intro x y hx hxy hy _
  rcases hxy with ⟨pair, hp, hgiven, rfl, hparent⟩ | ⟨slot, hslot, hid, hparent, hkept⟩
  · have hby : PassesBy (Blend mode model live) id id := ⟨hcycle, hcycle⟩
    refine (hnone ⟨pair, hp, hgiven, hby.of_between hx (.head ?_ hy)⟩).elim
    exact .inl ⟨pair, hp, hgiven, rfl, hparent⟩
  · exact ⟨⟨slot.entity, entity_mem hslot, hid, hparent⟩, trivial⟩

/-- The plan leaves the bone under a parent that is not its desired one. -/
def Astray (mode : Mode) (model : Model K) (live : Live K) (b : Model.Bone K) : Prop :=
  ∃ slot, (b, some slot) ∈ (boneMatching model live).pairs ∧
    givesParent model.bones mode.comparesAll (b, some slot) = false ∧ slot.entity.parent ≠ b.parent

lemma astray_on_cycle {limits : Limits} (hbones : Model.SoundBones limits model.bones)
    (hlive : Forest live.bones) (hmatched : MatchedById model live)
    (hcycle : TransGen (Blend mode model live) id id) :
    ∃ b, Astray mode model live b ∧ PassesBy (Blend mode model live) id b.id := by
  by_contra hnone
  obtain ⟨⟨first, claim⟩, hfirst, -, hby⟩ := given_on_cycle hlive hcycle
  -- otherwise it leads from the bone that is given its parent through desired parents only
  refine hbones.acyclic first.id (transGen_of_along (P := (· ∈ model.bones.ids))
    (hby.2.trans hby.1) (Roster.mem_ids_of_mem (mem_of_pair hfirst)) ?_).1
  intro x y hx hxy hy hdesired
  have hdown : ReflTransGen (Blend mode model live) x first.id := .head hxy hy
  suffices hparent : Model.ParentOf model.bones x y by
    obtain ⟨b, hb, hid, hp⟩ := hparent
    exact ⟨⟨b, hb, hid, hp⟩, hbones.parents b hb y hp⟩
  rcases hxy with ⟨pair, hp, -, rfl, hparent⟩ | ⟨slot, hslot, hid, hparent, hkept⟩
  · exact ⟨pair.1, mem_of_pair hp, rfl, hparent⟩
  obtain ⟨b, hb, rfl⟩ := Roster.mem_ids.mp hdesired
  obtain ⟨claim, hp⟩ := exists_pair (slots live.bones) hb
  obtain rfl : claim = some slot := hmatched.claimed hlive.ids hp hslot hid
  refine ⟨b, hb, rfl, ?_⟩
  by_contra hother
  refine hnone ⟨b, ⟨slot, hp, hkept b hp, fun he => hother (he.symm.trans hparent)⟩, ?_⟩
  exact hby.of_between hx hdown

/-- After a merge or a patch, the bones that are given a parent hang from it, and all others hang as
before. A cycle takes one of either kind: a bone that is given its parent, and one that is left under
a parent that is not its desired one. -/
theorem merge_hangs {limits : Limits} {spec : Spec K} {plan : Plan K}
    (hmodel : Model.ofSpec limits spec = .ok model) (hlive : Forest live.bones)
    (hmatched : MatchedById model live) (hmode : mode ≠ .replace)
    (hplan : ofModel mode deleteOrphans model live = .ok plan) :
    (sequence mode deleteOrphans model live).map Step.op = plan.ops ∧
      (∀ child parent, Hangs (finalBones mode deleteOrphans model live) child parent ↔
        Blend mode model live child parent) ∧
      (∀ id, TransGen (Hangs (finalBones mode deleteOrphans model live)) id id →
        (∃ pair ∈ (boneMatching model live).pairs,
          givesParent model.bones mode.comparesAll pair = true ∧
            PassesBy (Hangs (finalBones mode deleteOrphans model live)) id pair.1.id) ∧
        ∃ b, Astray mode model live b ∧
          PassesBy (Hangs (finalBones mode deleteOrphans model live)) id b.id) ∧
      ((∀ b, ¬ Astray mode model live b) →
        NoCycle (Hangs (finalBones mode deleteOrphans model live))) := by
  have hbones := Model.sound_bones hmodel
  have hblend : Hangs (finalBones mode deleteOrphans model live) = Blend mode model live := by
    ext child parent
    exact hangs_iff_blend hmatched hmode
  obtain ⟨-, -, rfl⟩ := ofModel_ok.mp hplan
  rw [hblend]
  refine ⟨sequence_map_op .., fun _ _ => .rfl, fun id hcycle => ?_, fun hnone id hcycle => ?_⟩
  · exact ⟨given_on_cycle hlive hcycle, astray_on_cycle hbones hlive hmatched hcycle⟩
  · obtain ⟨b, hastray, -⟩ := astray_on_cycle hbones hlive hmatched hcycle
    exact hnone b hastray

def tipSpec : Spec Float where
  bones := [{ id := some "tip", parent := some "base" }, { id := some "base" }]

lemma tip_matched : ∃ model, Model.ofSpec .standard tipSpec = .ok model ∧
    MatchedById model swapLive ∧
      Hangs (finalBones .merge false model swapLive) "tip" "base" ∧
        Hangs (finalBones .merge false model swapLive) "base" "tip" := by
  obtain ⟨model, hm⟩ : ∃ model, Model.ofSpec .standard tipSpec = .ok model :=
    Attempts.exists_ok (by decide +kernel)
  have hmatched : ∀ pair ∈ (boneMatching model swapLive).pairs, ∀ slot ∈ pair.2,
      slot.entity.id = some pair.1.id := by
    apply Attempts.holds_of_all hm
    decide +kernel
  have htip : Hangs (finalBones .merge false model swapLive) "tip" "base" := by
    apply Attempts.holds_of_all hm
    decide +kernel
  have hbase : Hangs (finalBones .merge false model swapLive) "base" "tip" := by
    apply Attempts.holds_of_all hm
    decide +kernel
  exact ⟨model, hm, hmatched, htip, hbase⟩

/-- The tip moves to the base. The base is to hang from the root, but this was not set, and so it
goes on hanging from the tip. -/
theorem merge_cycle : ∃ model plan, Model.ofSpec .standard tipSpec = .ok model ∧
    Forest swapLive.bones ∧ MatchedById model swapLive ∧
      ofModel .merge false model swapLive = .ok plan ∧
        (sequence .merge false model swapLive).map Step.op = plan.ops ∧
          ¬ NoCycle (Hangs (finalBones .merge false model swapLive)) := by
  obtain ⟨model, hm, hmatched, htip, hbase⟩ := tip_matched
  exact ⟨model, _, hm, swapLive_forest, hmatched, ofModel_ok.mpr ⟨rfl, rfl, rfl⟩,
    sequence_map_op .., fun hnone => hnone "tip" (.tail (.single htip) hbase)⟩

theorem merge_hangs_tip : ∃ model plan, Model.ofSpec .standard tipSpec = .ok model ∧
    Forest swapLive.bones ∧ MatchedById model swapLive ∧
      ofModel .merge false model swapLive = .ok plan ∧
        (sequence .merge false model swapLive).map Step.op = plan.ops ∧
          (∃ pair ∈ (boneMatching model swapLive).pairs,
            givesParent model.bones Mode.merge.comparesAll pair = true ∧
              PassesBy (Hangs (finalBones .merge false model swapLive)) "tip" pair.1.id) ∧
          ∃ b, Astray .merge model swapLive b ∧
            PassesBy (Hangs (finalBones .merge false model swapLive)) "tip" b.id := by
  obtain ⟨model, hm, hmatched, htip, hbase⟩ := tip_matched
  obtain ⟨plan, hplan⟩ : ∃ plan, ofModel .merge false model swapLive = .ok plan :=
    ⟨_, ofModel_ok.mpr ⟨rfl, rfl, rfl⟩⟩
  obtain ⟨hops, -, hcycle, -⟩ := merge_hangs hm swapLive_forest hmatched (by decide) hplan
  exact ⟨model, plan, hm, swapLive_forest, hmatched, hplan, hops,
    hcycle "tip" (.tail (.single htip) hbase)⟩

end Armature.Plan
