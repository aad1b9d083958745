import Armature.Proofs.Rematching
import Armature.Spec.Critter

/-! Live entities that bear a desired id. The desired entity with that id prefers such a bearer to
anything else, but only when its turn comes: an earlier one that finds nothing under its own id may
have taken the bearer by its name. -/

namespace Armature.Plan

section Turns

variable {α β : Type} [Desired α] [Named β]

/-- An earlier desired entity claims what a later one could have had, by its name. -/
def Taken (free : List (Slot β)) (l : List α) (a : α) (slot : Slot β) : Prop :=
  ∃ b, [b, a].Sublist l ∧ (b, some slot) ∈ (matchUp free l).pairs ∧
    Named.name slot.entity = Desired.name b

section Free

variable {free : List (Slot β)} {l : List α} {a : α} {slot : Slot β}

lemma claim?_bearer (hkeys : (free.filterMap fun slot => Named.id? slot.entity).Nodup)
    (hslot : slot ∈ free) (hid : Named.id? slot.entity = some (Identified.id a)) :
    claim? a free = some slot := by
  have hfits : Mark.id.fits slot.entity a = true := by simp [Mark.fits, hid]
  obtain ⟨s, hs⟩ := Option.isSome_iff_exists.mp
    (List.find?_isSome (p := fun slot => Mark.id.fits slot.entity a).mpr ⟨slot, hslot, hfits⟩)
  have hsid : Named.id? s.entity = some (Identified.id a) := by
    simpa [Mark.fits] using fits_of_find? hs
  obtain rfl := eq_of_filterMap_nodup hkeys (List.mem_of_find?_eq_some hs) hslot hsid hid
  exact claim?_eq_some_iff.mpr (.inl hs)

lemma mem_remaining_of_ne (hfree : Distinct free) (hslot : slot ∈ free)
    (hne : claim? a free ≠ some slot) : slot ∈ remaining free (claim? a free) := by
  refine mem_remaining.mpr ⟨hslot, fun s hs hindex => hne ?_⟩
  rw [hs, List.inj_on_of_nodup_map hfree hslot (claim?_spec hs).1 hindex]

lemma claimed_or_taken (hids : (l.map Identified.id).Nodup) (hfree : Distinct free)
    (hkeys : (free.filterMap fun slot => Named.id? slot.entity).Nodup) (ha : a ∈ l)
    (hslot : slot ∈ free) (hid : Named.id? slot.entity = some (Identified.id a)) :
    (a, some slot) ∈ (matchUp free l).pairs ∨ Taken free l a slot := by
  induction l generalizing free with
  | nil => cases ha
  | cons c l ih =>
    rw [List.map_cons, List.nodup_cons] at hids
    rw [Taken, matchUp_cons]
    rcases List.mem_cons.mp ha with rfl | ha
    · rw [claim?_bearer hkeys hslot hid]
      exact .inl List.mem_cons_self
    by_cases hclaim : claim? c free = some slot
    · rw [hclaim]
      refine .inr ⟨c, (List.singleton_sublist.mpr ha).cons_cons c, List.mem_cons_self, ?_⟩
      rcases (claim?_spec hclaim).2 with hc | hname
      · have he : Identified.id a = Identified.id c := Option.some.inj (hid.symm.trans hc)
        exact (hids.1 (he ▸ List.mem_map_of_mem ha)).elim
      · exact hname
    · have hsub := remaining_sublist free (claim? c free)
      rcases ih hids.2 (hfree.sublist (hsub.map _)) (hkeys.sublist (hsub.filterMap _)) ha
        (mem_remaining_of_ne hfree hslot hclaim) with hpair | ⟨b, hb, hpair, hname⟩
      · exact .inl (List.mem_cons_of_mem _ hpair)
      · exact .inr ⟨b, hb.cons c, List.mem_cons_of_mem _ hpair, hname⟩

lemma claimed_of_borne (hids : (l.map Identified.id).Nodup) (hfree : Distinct free)
    (hkeys : (free.filterMap fun slot => Named.id? slot.entity).Nodup) (ha : a ∈ l)
    (hslot : slot ∈ free) (hid : Named.id? slot.entity = some (Identified.id a))
    (hborne : ∀ b, [b, a].Sublist l →
      ∃ s ∈ free, Named.id? s.entity = some (Identified.id b)) :
    (a, some slot) ∈ (matchUp free l).pairs := by
  induction l generalizing free with
  | nil => cases ha
  | cons c l ih =>
    rw [List.map_cons, List.nodup_cons] at hids
    rw [matchUp_cons]
    rcases List.mem_cons.mp ha with rfl | ha
    · rw [claim?_bearer hkeys hslot hid]
      exact List.mem_cons_self
    obtain ⟨s, hs, hsid⟩ := hborne c ((List.singleton_sublist.mpr ha).cons_cons c)
    have hclaim := claim?_bearer hkeys hs hsid
    -- the first one takes what bears its own id, and so no other bearer
    have hkept : ∀ b ∈ l, ∀ t ∈ free, Named.id? t.entity = some (Identified.id b) →
        t ∈ remaining free (claim? c free) := by
      intro b hb t ht htid
      apply mem_remaining_of_ne hfree ht
      intro he
      obtain rfl := Option.some.inj (hclaim.symm.trans he)
      have he : Identified.id b = Identified.id c := Option.some.inj (htid.symm.trans hsid)
      exact hids.1 (he ▸ List.mem_map_of_mem hb)
    have hsub := remaining_sublist free (claim? c free)
    apply List.mem_cons_of_mem
    apply ih hids.2 (hfree.sublist (hsub.map _)) (hkeys.sublist (hsub.filterMap _)) ha
      (hkept a ha slot hslot hid)
    intro b hb
    obtain ⟨t, ht, htid⟩ := hborne b (hb.cons c)
    exact ⟨t, hkept b (hb.subset List.mem_cons_self) t ht htid, htid⟩

end Free

/-- Whatever bears the id of a desired entity has been taken by an earlier one. -/
def Lost (live : List β) (l : List α) (a : α) : Prop :=
  ∀ slot ∈ slots live, Named.id? slot.entity = some (Identified.id a) →
    Taken (slots live) l a slot

structure ClaimsById (live : List β) (l : List α) : Prop where
  claimed_iff : ∀ a ∈ l, ∀ slot ∈ slots live, Named.id? slot.entity = some (Identified.id a) →
    ((a, some slot) ∈ (matchUp (slots live) l).pairs ↔ ¬ Taken (slots live) l a slot)
  /-- It takes an earlier entity without a bearer to take one from another. -/
  unborne : ∀ a slot, Named.id? slot.entity = some (Identified.id a) →
    Taken (slots live) l a slot →
      ∃ b, [b, a].Sublist l ∧ ∀ s ∈ slots live, Named.id? s.entity ≠ some (Identified.id b)
  lost : ∀ a, (a, none) ∈ (matchUp (slots live) l).pairs → Lost live l a

variable {live : List β} {l : List α} {a : α} {slot : Slot β}

lemma claim_eq {free : List (Slot β)} {claim other : Option (Slot β)}
    (hids : (l.map Identified.id).Nodup) (ha : (a, claim) ∈ (matchUp free l).pairs)
    (ho : (a, other) ∈ (matchUp free l).pairs) : claim = other :=
  congrArg Prod.snd (List.inj_on_of_nodup_map (pairs_fst_nodup hids) ha ho rfl)

lemma Taken.not_claimed (hids : (l.map Identified.id).Nodup) (h : Taken (slots live) l a slot) :
    (a, some slot) ∉ (matchUp (slots live) l).pairs := by
  intro ha
  obtain ⟨b, hb, hpair, -⟩ := h
  have he := claim_unique (slots_distinct live) hpair ha rfl rfl rfl
  obtain rfl : b = a := congrArg Prod.fst he
  simpa using hb.nodup (hids.of_map _)

lemma claimsById (hids : (l.map Identified.id).Nodup) (hlive : (live.filterMap Named.id?).Nodup) :
    ClaimsById live l := by
  have hdistinct := slots_distinct live
  have hkeys : ((slots live).filterMap fun slot => Named.id? slot.entity).Nodup := by
    rwa [filterMap_slots]
  refine { claimed_iff := ?_, unborne := ?_, lost := ?_ }
  · intro a ha slot hslot hid
    constructor
    · intro hpair htaken
      exact htaken.not_claimed hids hpair
    · intro hkept
      exact (claimed_or_taken hids hdistinct hkeys ha hslot hid).resolve_right hkept
  · intro a slot hid htaken
    by_contra! hborne
    have hnot := htaken.not_claimed hids
    obtain ⟨b, hb, hpair, -⟩ := htaken
    have hslot := mem_free_of_claim hdistinct hpair rfl
    have ha : a ∈ l := hb.subset (by simp)
    exact hnot (claimed_of_borne hids hdistinct hkeys ha hslot hid hborne)
  · intro a ha slot hslot hid
    apply (claimed_or_taken hids hdistinct hkeys (mem_of_pair ha) hslot hid).resolve_left
    intro hpair
    cases claim_eq hids ha hpair

end Turns

section Plans

variable {K : Type} [Scalar K] {mode : Mode} {deleteOrphans : Bool} {model : Model K} {live : Live K}

lemma boneOp?_claimed {bones : Model.Bones K} {all : Bool} {b : Model.Bone K}
    {slot : Slot (Live.Bone K)} {op : Op K} (h : boneOp? bones all (b, some slot) = some op) :
    op.kind = .updateBone := by
  simp only [boneOp?] at h
  split_ifs at h
  obtain rfl := Option.some.inj h
  rfl

lemma cubeOp?_claimed {bones : Model.Bones K} {all : Bool} {c : Model.Cube K}
    {slot : Slot (Live.Cube K)} {op : Op K} (h : cubeOp? bones all (c, some slot) = some op) :
    op.kind = .updateCube := by
  simp only [cubeOp?] at h
  split_ifs at h
  obtain rfl := Option.some.inj h
  rfl

lemma createBone_mem {bone : Live.Bone K}
    (h : .createBone bone ∈ opsFor mode deleteOrphans model live) :
    ∃ b, (b, none) ∈ (boneMatching model live).pairs ∧ bone = b.toLive := by
  rcases mem_opsFor h with ⟨⟨b, _ | slot⟩, hp, hop⟩ | ⟨⟨c, _ | slot⟩, -, hop⟩ | hkind | hkind
  · cases hop
    exact ⟨b, hp, rfl⟩
  · cases boneOp?_claimed hop
  · cases hop
  · cases cubeOp?_claimed hop
  all_goals cases hkind

lemma createCube_mem {cube : Live.Cube K}
    (h : .createCube cube ∈ opsFor mode deleteOrphans model live) :
    ∃ c, (c, none) ∈ (cubeMatching model live).pairs ∧ cube = c.toLive := by
  rcases mem_opsFor h with ⟨⟨b, _ | slot⟩, -, hop⟩ | ⟨⟨c, _ | slot⟩, hp, hop⟩ | hkind | hkind
  · cases hop
  · cases boneOp?_claimed hop
  · cases hop
    exact ⟨c, hp, rfl⟩
  · cases cubeOp?_claimed hop
  all_goals cases hkind

omit [Scalar K] in
lemma check_patch_error {α β : Type} [Desired α] [Named β] {kind : Kind} {m : Matching α β}
    {fault : Fault K} (h : Mode.check .patch kind m = .error fault) :
    ∃ a, (a, none) ∈ m.pairs ∧ fault = .notFound kind (Identified.id a) := by
  simp only [Mode.check] at h
  split at h
  next a claim hfind =>
    have hnone : claim = none := by simpa using List.find?_some hfind
    refine ⟨a, hnone ▸ List.mem_of_find?_eq_some hfind, (Except.error.inj h).symm⟩
  next => cases h

lemma ofModel_patch_error {fault : Fault K}
    (h : ofModel .patch deleteOrphans model live = .error fault) :
    (∃ b, (b, none) ∈ (boneMatching model live).pairs ∧ fault = .notFound .bone b.id) ∨
      ∃ c, (c, none) ∈ (cubeMatching model live).pairs ∧ fault = .notFound .cube c.id := by
  rw [ofModel, Attempts.then_error, Attempts.then_error] at h
  rcases h with hbones | ⟨-, hcubes | ⟨-, hplan⟩⟩
  · exact .inl (check_patch_error hbones)
  · exact .inr (check_patch_error hcubes)
  · cases hplan

/-- A live entity goes to the desired one with its id, unless an earlier one takes it by its name.
Only then is something created under an id that is live, or reported as missing although its id is
live. -/
theorem ofModel_claimsById (model : Model K) (hbones : (live.bones.filterMap Live.Bone.id).Nodup)
    (hcubes : (live.cubes.filterMap Live.Cube.id).Nodup) :
    ClaimsById live.bones model.bones.toList ∧ ClaimsById live.cubes model.cubes.toList ∧
      (∀ mode deleteOrphans plan, ofModel mode deleteOrphans model live = .ok plan →
        (∀ bone, .createBone bone ∈ plan.ops →
          ∃ b ∈ model.bones.toList, bone = b.toLive ∧ Lost live.bones model.bones.toList b) ∧
        ∀ cube, .createCube cube ∈ plan.ops →
          ∃ c ∈ model.cubes.toList, cube = c.toLive ∧ Lost live.cubes model.cubes.toList c) ∧
      ∀ deleteOrphans fault, ofModel .patch deleteOrphans model live = .error fault →
        (∃ b ∈ model.bones.toList, fault = .notFound .bone b.id ∧
          Lost live.bones model.bones.toList b) ∨
        ∃ c ∈ model.cubes.toList, fault = .notFound .cube c.id ∧
          Lost live.cubes model.cubes.toList c := by
  have claimBones : ClaimsById live.bones model.bones.toList := claimsById model.bones.nodup hbones
  have claimCubes : ClaimsById live.cubes model.cubes.toList := claimsById model.cubes.nodup hcubes
  refine ⟨claimBones, claimCubes, fun mode deleteOrphans plan hplan => ?_,
    fun deleteOrphans fault hfault => ?_⟩
  · obtain ⟨-, -, rfl⟩ := ofModel_ok.mp hplan
    constructor
    · intro bone hop
      obtain ⟨b, hp, hb⟩ := createBone_mem hop
      exact ⟨b, mem_of_pair hp, hb, claimBones.lost b hp⟩
    · intro cube hop
      obtain ⟨c, hp, hc⟩ := createCube_mem hop
      exact ⟨c, mem_of_pair hp, hc, claimCubes.lost c hp⟩
  · rcases ofModel_patch_error hfault with ⟨b, hp, hb⟩ | ⟨c, hp, hc⟩
    · exact .inl ⟨b, mem_of_pair hp, hb, claimBones.lost b hp⟩
    · exact .inr ⟨c, mem_of_pair hp, hc, claimCubes.lost c hp⟩

end Plans

def handSpec : Spec Float where
  bones := [{ id := some "left", name := some "Hand" }, { id := some "right", name := some "Arm" }]
  policy := { enforceRoot := false }

def handLive : Live Float where
  bones := [{ Live.Bone.named "Hand" with id := some "right" },
    { Live.Bone.named "Hand" with id := some "old" }]

/-- The left hand takes the live right one by its name, although there is another one of that name.
Then the right one is missed. -/
theorem bearer_taken : ∃ model, Model.ofSpec .standard handSpec = .ok model ∧
    (handLive.bones.filterMap Live.Bone.id).Nodup ∧
      ∃ b ∈ model.bones.toList, ∃ slot ∈ slots handLive.bones, slot.entity.id = some b.id ∧
        (b, some slot) ∉ (boneMatching model handLive).pairs ∧
          ofModel .patch false model handLive = .error (.notFound .bone b.id) := by
  obtain ⟨model, hm⟩ : ∃ model, Model.ofSpec .standard handSpec = .ok model :=
    Attempts.exists_ok (by decide +kernel)
  have hmissed : ((boneMatching model handLive).pairs.find? (·.2.isNone)).map (·.1.id) =
      some "right" := by
    apply Attempts.holds_of_all hm
    decide +kernel
  obtain ⟨⟨b, claim⟩, hfind, hid⟩ := Option.map_eq_some_iff.mp hmissed
  obtain rfl : claim = none := by simpa using List.find?_some hfind
  have hp := List.mem_of_find?_eq_some hfind
  refine ⟨model, hm, by decide, b, mem_of_pair hp, _, List.mem_cons_self, congrArg some hid.symm,
    fun hclaim => ?_, ?_⟩
  · cases claim_eq model.bones.nodup hp hclaim
  · simp only [ofModel, Mode.check, hfind]
    rfl

theorem ofModel_claimsById_hands : ∃ model, Model.ofSpec .standard handSpec = .ok model ∧
    (handLive.bones.filterMap Live.Bone.id).Nodup ∧ (handLive.cubes.filterMap Live.Cube.id).Nodup ∧
      ClaimsById handLive.bones model.bones.toList ∧
      ClaimsById handLive.cubes model.cubes.toList ∧
      ∀ deleteOrphans fault, ofModel .patch deleteOrphans model handLive = .error fault →
        (∃ b ∈ model.bones.toList, fault = .notFound .bone b.id ∧
          Lost handLive.bones model.bones.toList b) ∨
        ∃ c ∈ model.cubes.toList, fault = .notFound .cube c.id ∧
          Lost handLive.cubes model.cubes.toList c := by
  obtain ⟨model, hm⟩ : ∃ model, Model.ofSpec .standard handSpec = .ok model :=
    Attempts.exists_ok (by decide +kernel)
  have hbones : (handLive.bones.filterMap Live.Bone.id).Nodup := by decide
  have hcubes : (handLive.cubes.filterMap Live.Cube.id).Nodup := by decide
  obtain ⟨claimBones, claimCubes, -, hpatch⟩ := ofModel_claimsById model hbones hcubes
  exact ⟨model, hm, hbones, hcubes, claimBones, claimCubes, hpatch⟩

end Armature.Plan
