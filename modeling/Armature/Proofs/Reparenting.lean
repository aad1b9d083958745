import Armature.Proofs.Bearers
import Armature.Proofs.Convergence
import Armature.Proofs.EmptyPlans
import Armature.Proofs.ParentReferences
import Armature.Proofs.PartialRuns

/-! How bones hang from each other while a plan is carried out. A bone moves when all its desired
ancestors are in place, so that above it everything is as desired, and below it nothing that moves
later is passed on the way up. -/

namespace Armature.Plan

open Relation

variable {K : Type}

/-- One bone hangs from another one, both given by their ids. -/
def Hangs (bones : List (Live.Bone K)) (child parent : String) : Prop :=
  ∃ bone ∈ bones, bone.id = some child ∧ bone.parent = some parent

instance (bones : List (Live.Bone K)) (child parent : String) :
    Decidable (Hangs bones child parent) :=
  inferInstanceAs (Decidable (∃ bone ∈ bones, _))

/-- Bones that are told apart by their ids and hang from each other by them, none from itself. -/
structure Forest (bones : List (Live.Bone K)) : Prop where
  ids : (bones.filterMap Live.Bone.id).Nodup
  parents : ∀ bone ∈ bones, ∀ parent ∈ bone.parent, ∃ other ∈ bones, other.id = some parent
  acyclic : NoCycle (Hangs bones)

def MatchedById (model : Model K) (live : Live K) : Prop :=
  ∀ pair ∈ (boneMatching model live).pairs, ∀ slot ∈ pair.2, slot.entity.id = some pair.1.id

variable [Scalar K] {mode : Mode} {deleteOrphans : Bool} {model : Model K} {live : Live K}
  {done rest : List (Step K)} {s : Step K} {pair : Model.Bone K × Option (Slot (Live.Bone K))}
  {child parent : String}

omit [Scalar K] in
lemma MatchedById.claimed (hmatched : MatchedById model live)
    (hids : (live.bones.filterMap Live.Bone.id).Nodup) {slot : Slot (Live.Bone K)}
    (hp : pair ∈ (boneMatching model live).pairs) (hslot : slot ∈ slots live.bones)
    (hid : slot.entity.id = some pair.1.id) : pair.2 = some slot := by
  have hby : ClaimsById live.bones model.bones.toList := claimsById model.bones.nodup hids
  have hclaimed : (pair.1, some slot) ∈ (boneMatching model live).pairs := by
    apply (hby.claimed_iff pair.1 (mem_of_pair hp) slot hslot hid).mpr
    rintro ⟨b, hb, htaken, -⟩
    have hbid : b.id = pair.1.id := Option.some.inj ((hmatched _ htaken slot rfl).symm.trans hid)
    obtain rfl := Roster.eq_of_id_eq (mem_of_pair htaken) (mem_of_pair hp) hbid
    simpa using hb.nodup (model.bones.nodup.of_map _)
  exact claim_eq model.bones.nodup hp hclaimed

lemma MatchedById.id_settledBone (hmatched : MatchedById model live) {bones : Model.Bones K}
    {all : Bool} (hp : pair ∈ (boneMatching model live).pairs) :
    (settledBone bones all pair).id = some pair.1.id := by
  obtain ⟨b, claim⟩ := pair
  cases claim with
  | none => rfl
  | some slot => exact idChange_orElse.mpr (.inl (hmatched _ hp slot rfl))

lemma parent_settledBone {bones : Model.Bones K} {all : Bool} (b : Model.Bone K)
    (slot : Slot (Live.Bone K)) : (settledBone bones all (b, some slot)).parent =
      newParent bones (all || b.explicit.parent) b.parent slot.entity.parent := rfl

omit [Scalar K] in
lemma newParent_of_exact {bones : Model.Bones K} {desired reference : Option String}
    (h : ∀ parent ∈ desired, ∀ r ∈ reference,
      parentMatches bones parent (some r) = true → r = parent) :
    newParent bones true desired reference = desired := by
  cases desired with
  | none => cases reference <;> rfl
  | some parent =>
    cases reference with
    | none => rfl
    | some r =>
      cases hmatches : parentMatches bones parent (some r) with
      | false => simp [newParent, Option.filter, hmatches]
      | true =>
        obtain rfl := h parent rfl r rfl hmatches
        simp [newParent, Option.filter, hmatches]

section Placing

/-- The bone and all its desired ancestors are as the plan leaves them. -/
def Placed (mode : Mode) (model : Model K) (live : Live K) (done : List (Step K)) (id : String) :
    Prop :=
  ∀ ancestor, ReflTransGen (Model.ParentOf model.bones) id ancestor →
    ∃ pair ∈ (boneMatching model live).pairs, pair.1.id = ancestor ∧ Carried mode model done pair

lemma Placed.up (h : Placed mode model live done child)
    (hparent : Model.ParentOf model.bones child parent) : Placed mode model live done parent :=
  fun ancestor ha => h ancestor (ha.head hparent)

lemma placed_of_step {limits : Limits} (hbones : Model.SoundBones limits model.bones)
    (hsplit : sequence mode deleteOrphans model live = done ++ rest)
    (hp : pair ∈ (boneMatching model live).pairs)
    (hstep : boneStep? model.bones mode.comparesAll pair = some s) (hs : s ∈ done) :
    Placed mode model live done pair.1.id := by
  intro ancestor ha
  rcases reflTransGen_iff_eq_or_transGen.mp ha with rfl | ha
  · exact ⟨pair, hp, rfl, carried_of_mem hstep hs⟩
  obtain ⟨_, -, c, hc, -, hparent⟩ := TransGen.tail'_iff.mp ha
  obtain ⟨b, hb, rfl⟩ := Roster.mem_ids.mp (hbones.parents c hc ancestor hparent)
  obtain ⟨claim, hclaim⟩ := exists_pair (slots live.bones) hb
  refine ⟨_, hclaim, rfl, fun u hu => ?_⟩
  -- parents come first in a plan
  have hseq : Sequenced mode deleteOrphans model live (sequence mode deleteOrphans model live) :=
    sequence_sequenced hbones
  have hmem : u ∈ sequence mode deleteOrphans model live := mem_sequence_of_boneStep hclaim hu
  have horder := hseq.parentsFirst
  rw [hsplit] at hmem horder
  exact horder.mem_of_append hmem hs ⟨b, boneStep?_bone? hu, pair.1, boneStep?_bone? hstep, ha⟩

end Placing

section Replacing

variable {limits : Limits} (hbones : Model.SoundBones limits model.bones) (hlive : Forest live.bones)
  (hmatched : MatchedById model live)
  (hnames : ∀ b ∈ model.bones.toList, ∀ bone ∈ live.bones, bone.id = some b.name → b.name = b.id)
  (hsplit : sequence .replace deleteOrphans model live = done ++ rest)

include hlive hnames in
lemma settledBone_parent (hp : pair ∈ (boneMatching model live).pairs) :
    (settledBone model.bones true pair).parent = pair.1.parent := by
  obtain ⟨b, claim⟩ := pair
  cases claim with
  | none => rfl
  | some slot =>
    rw [parent_settledBone]
    apply newParent_of_exact
    intro parent _ r hr hmatches
    obtain ⟨_, hr', rfl | ⟨c, hc, rfl⟩⟩ := parentMatches_iff.mp hmatches
    · exact Option.some.inj hr'
    · obtain rfl := Option.some.inj hr'
      -- a name that a bone hangs from is also an id
      have hslot := mem_free_of_claim (slots_distinct live.bones) hp rfl
      obtain ⟨bone, hbone, hid⟩ := hlive.parents _ (entity_mem hslot) _ hr
      obtain ⟨hcm, rfl⟩ := Roster.get?_eq_some.mp hc
      exact hnames c hcm bone hbone hid

include hbones hlive hmatched hnames hsplit in
lemma hangs_run
    (h : Hangs (((Progress.start live).run done).bones.map Tracked.entity) child parent) :
    Placed .replace model live done child ∧ Model.ParentOf model.bones child parent ∧
        Placed .replace model live done parent ∨
      ¬ Placed .replace model live done child ∧ Hangs live.bones child parent := by
  obtain ⟨_, hm, hid, hparent⟩ := h
  obtain ⟨t, ht, rfl⟩ := List.mem_map.mp hm
  rcases cases_of_mem_run hsplit ht with ⟨pair, hp, hcarried, rfl⟩ | ⟨slot, hslot, rfl, hopen⟩
  · obtain rfl : pair.1.id = child := Option.some.inj ((hmatched.id_settledBone hp).symm.trans hid)
    have hdesired : Model.ParentOf model.bones pair.1.id parent :=
      ⟨pair.1, mem_of_pair hp, rfl, (settledBone_parent hlive hnames hp).symm.trans hparent⟩
    by_cases hplaced : Placed .replace model live done pair.1.id
    · exact .inl ⟨hplaced, hdesired, hplaced.up hdesired⟩
    refine .inr ⟨hplaced, ?_⟩
    cases hstep : boneStep? model.bones Mode.replace.comparesAll pair with
    | some s => exact (hplaced (placed_of_step hbones hsplit hp hstep (hcarried s hstep))).elim
    | none =>
      -- the bone hung from its desired parent all along
      obtain ⟨b, claim⟩ := pair
      cases claim with
      | none => cases hstep
      | some slot =>
        have hslot := mem_free_of_claim (slots_distinct live.bones) hp rfl
        rw [settledBone_of_no_step hstep] at hid hparent
        exact ⟨slot.entity, entity_mem hslot, hid, hparent⟩
  · refine .inr ⟨fun hplaced => ?_, slot.entity, entity_mem hslot, hid, hparent⟩
    obtain ⟨⟨b, claim⟩, hp, rfl, hcarried⟩ := hplaced child .refl
    obtain rfl : claim = some slot := hmatched.claimed hlive.ids hp hslot hid
    exact hopen b hp hcarried

end Replacing

/-- While everything is replaced, no bone ever hangs from itself, and as soon as no bone is to be
created or updated, each desired bone hangs from its desired parent. -/
theorem replace_keeps_acyclic {limits : Limits} {spec : Spec K} {plan : Plan K}
    (hmodel : Model.ofSpec limits spec = .ok model) (hlive : Forest live.bones)
    (hmatched : MatchedById model live)
    (hnames : ∀ b ∈ model.bones.toList, ∀ bone ∈ live.bones,
      bone.id = some b.name → b.name = b.id)
    (hplan : ofModel .replace deleteOrphans model live = .ok plan) :
    (sequence .replace deleteOrphans model live).map Step.op = plan.ops ∧
      ∀ done rest, sequence .replace deleteOrphans model live = done ++ rest →
        NoCycle (Hangs (((Progress.start live).run done).bones.map Tracked.entity)) ∧
          ((∀ s ∈ rest, s.kind ≠ .createBone ∧ s.kind ≠ .updateBone) →
            ∀ b ∈ model.bones.toList,
              (∃ t ∈ ((Progress.start live).run done).bones, t.entity.id = some b.id) ∧
                ∀ t ∈ ((Progress.start live).run done).bones,
                  t.entity.id = some b.id → t.entity.parent = b.parent) := by
  have hbones := Model.sound_bones hmodel
  obtain ⟨-, -, rfl⟩ := ofModel_ok.mp hplan
  refine ⟨sequence_map_op .., fun done rest hsplit => ⟨?_, fun hrest b hb => ?_⟩⟩
  · exact noCycle_of_switch hbones.acyclic hlive.acyclic fun _ _ =>
      hangs_run hbones hlive hmatched hnames hsplit
  obtain ⟨claim, hp⟩ := exists_pair (slots live.bones) hb
  have hcarried : Carried .replace model done (b, claim) := carried_of_rest hsplit hrest hp
  refine ⟨⟨_, hcarried.mem_run hsplit hp, hmatched.id_settledBone hp⟩, fun t ht hid => ?_⟩
  rcases cases_of_mem_run hsplit ht with ⟨pair, hpair, -, rfl⟩ | ⟨slot, hslot, rfl, hopen⟩
  · have hbid : pair.1.id = b.id :=
      Option.some.inj ((hmatched.id_settledBone hpair).symm.trans hid)
    obtain rfl := Roster.eq_of_id_eq (mem_of_pair hpair) hb hbid
    exact settledBone_parent hlive hnames hpair
  · obtain rfl : claim = some slot := hmatched.claimed hlive.ids hp hslot hid
    exact (hopen b hp hcarried).elim

def swapSpec : Spec Float where
  bones := [{ id := some "tip", parent := some "base" },
    { id := some "base", parent := some rootId }]

/-- The tip and the base hang the other way round. -/
def swapLive : Live Float where
  bones := [{ Live.Bone.named "root" with id := some rootId },
    { Live.Bone.named "base" with id := some "base", parent := some "tip" },
    { Live.Bone.named "tip" with id := some "tip", parent := some rootId }]

lemma swapLive_forest : Forest swapLive.bones where
  ids := by decide
  parents := by decide
  acyclic := by
    apply noCycle_of_rank fun id => if id = "base" then 2 else if id = "tip" then 1 else 0
    rintro child parent ⟨bone, hbone, hid, hparent⟩
    simp only [swapLive, List.mem_cons, List.not_mem_nil, or_false] at hbone
    rcases hbone with rfl | rfl | rfl
    · cases hparent
    · obtain ⟨rfl, rfl⟩ := And.intro (Option.some.inj hid) (Option.some.inj hparent)
      decide
    · obtain ⟨rfl, rfl⟩ := And.intro (Option.some.inj hid) (Option.some.inj hparent)
      decide

theorem replace_keeps_acyclic_swap : ∃ model plan, Model.ofSpec .standard swapSpec = .ok model ∧
    Forest swapLive.bones ∧ MatchedById model swapLive ∧
      ofModel .replace true model swapLive = .ok plan ∧ plan.ops.length = 2 ∧
        (sequence .replace true model swapLive).map Step.op = plan.ops ∧
          ∀ done rest, sequence .replace true model swapLive = done ++ rest →
            NoCycle (Hangs (((Progress.start swapLive).run done).bones.map Tracked.entity)) ∧
              ((∀ s ∈ rest, s.kind ≠ .createBone ∧ s.kind ≠ .updateBone) →
                ∀ b ∈ model.bones.toList,
                  (∃ t ∈ ((Progress.start swapLive).run done).bones, t.entity.id = some b.id) ∧
                    ∀ t ∈ ((Progress.start swapLive).run done).bones,
                      t.entity.id = some b.id → t.entity.parent = b.parent) := by
  obtain ⟨model, hm⟩ : ∃ model, Model.ofSpec .standard swapSpec = .ok model :=
    Attempts.exists_ok (by decide +kernel)
  have hmatched : ∀ pair ∈ (boneMatching model swapLive).pairs, ∀ slot ∈ pair.2,
      slot.entity.id = some pair.1.id := by
    apply Attempts.holds_of_all hm
    decide +kernel
  have hnames : ∀ b ∈ model.bones.toList, ∀ bone ∈ swapLive.bones,
      bone.id = some b.name → b.name = b.id := by
    apply Attempts.holds_of_all hm
    decide +kernel
  have hlength : (opsFor .replace true model swapLive).length = 2 := by
    apply Attempts.holds_of_all hm
    decide +kernel
  obtain ⟨plan, hplan, hops⟩ : ∃ plan, ofModel .replace true model swapLive = .ok plan ∧
      plan.ops.length = 2 := ⟨_, ofModel_ok.mpr ⟨rfl, rfl, rfl⟩, hlength⟩
  exact ⟨model, plan, hm, swapLive_forest, hmatched, hplan, hops,
    replace_keeps_acyclic hm swapLive_forest hmatched hnames hplan⟩

end Armature.Plan
