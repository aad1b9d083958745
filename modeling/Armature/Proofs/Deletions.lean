import Armature.Proofs.Accounting
import Armature.Proofs.Reparenting

/-! What hangs from a bone when its turn to be deleted comes. By then all that is desired hangs from
desired bones, as far as its references are understood, and so only what the plan passes over can
still hang from it. -/

namespace Armature.Plan

section Kept

variable {α β : Type} [Desired α] [Named β] {live : List β} {l : List α} {slot : Slot β}

/-- A live entity that nothing desired stands for and that is not deleted all the same: it has no id,
and its name is desired. -/
structure Spared (live : List β) (l : List α) (slot : Slot β) : Prop where
  mem : slot ∈ slots live
  unclaimed : ∀ a, (a, some slot) ∉ (matchUp (slots live) l).pairs
  id : Named.id? slot.entity = none
  name : ∃ a ∈ l, Desired.name a = Named.name slot.entity

lemma spared_of_kept (hl : (l.map Identified.id).Nodup) (hids : (live.filterMap Named.id?).Nodup)
    (hslot : slot ∈ slots live) (hfree : ∀ a, (a, some slot) ∉ (matchUp (slots live) l).pairs)
    (hkept : slot ∉ (matchUp (slots live) l).orphans l) : Spared live l slot := by
  have hdistinct := slots_distinct live
  have hdesired : ¬ Undesired l slot.entity := fun h =>
    hkept ((mem_orphans_iff hdistinct).mpr ⟨hslot, hfree, h⟩)
  have hid : Named.id? slot.entity = none := by
    by_contra hsome
    obtain ⟨id, hid⟩ := Option.ne_none_iff_exists'.mp hsome
    refine hdesired ⟨fun other hother a ha he => ?_, fun hnone => (hsome hnone).elim⟩
    -- what bears a desired id stands for something
    have hkeys : ((slots live).filterMap fun slot => Named.id? slot.entity).Nodup := by
      rwa [filterMap_slots]
    rcases claimed_or_taken hl hdistinct hkeys ha hslot (he ▸ hother) with hp | ⟨b, -, hp, -⟩
    · exact hfree a hp
    · exact hfree b hp
  refine ⟨hslot, hfree, hid, ?_⟩
  by_contra hname
  refine hdesired ⟨fun id hsome => ?_, fun _ a ha he => hname ⟨a, ha, he⟩⟩
  rw [hid] at hsome
  cases hsome

end Kept

variable {K : Type} [Scalar K] {mode : Mode} {deleteOrphans : Bool} {model : Model K} {live : Live K}
  {done rest : List (Step K)} {s : Step K}

section Parents

variable {reference : String}

/-- A reference to a desired bone, as a plan understands it: the id or the name of the bone. -/
structure RefersToDesired (model : Model K) (parent : Option String) (reference : String)
    (q : Model.Bone K) : Prop where
  mem : q ∈ model.bones.toList
  parent : parent = some q.id
  reference : reference = q.id ∨ reference = q.name

omit [Scalar K] in
lemma refersToDesired_of_matches {parent : String} (hparent : parent ∈ model.bones.ids)
    (h : parentMatches model.bones parent (some reference) = true) :
    ∃ q, RefersToDesired model (some parent) reference q := by
  obtain ⟨q, hq, rfl⟩ := Roster.mem_ids.mp hparent
  obtain ⟨r, hr, hmatch⟩ := parentMatches_iff.mp h
  obtain rfl := Option.some.inj hr
  refine ⟨q, hq, rfl, hmatch.imp_right ?_⟩
  rintro ⟨found, hfound, rfl⟩
  have hget : model.bones.get? (Identified.id q) = some q := Roster.get?_eq_some.mpr ⟨hq, rfl⟩
  rw [Option.some.inj (hfound.symm.trans hget)]

lemma settledBone_refers {b : Model.Bone K} {claim : Option (Slot (Live.Bone K))}
    (hparents : ∀ parent ∈ b.parent, parent ∈ model.bones.ids)
    (h : (settledBone model.bones true (b, claim)).parent = some reference) :
    ∃ q, RefersToDesired model b.parent reference q := by
  cases claim with
  | none =>
    have hb : b.parent = some reference := h
    rw [hb]
    exact refersToDesired_of_matches (hparents reference hb) (parentMatches_self _ _)
  | some slot =>
    rw [parent_settledBone, Bool.true_or] at h
    have htop := top_written model.bones true b.parent slot.entity.parent
    have hwritten := parent_written model.bones true b.parent slot.entity.parent
    rw [h] at htop hwritten
    cases hb : b.parent with
    | none =>
      rw [hb] at htop
      cases htop
    | some parent =>
      rw [hb, Option.filter_eq_none_iff] at hwritten
      exact refersToDesired_of_matches (hparents parent hb) (by simpa using hwritten parent rfl)

lemma parent_settledCube {bones : Model.Bones K} {all : Bool} (c : Model.Cube K)
    (slot : Slot (Live.Cube K)) : (settledCube bones all (c, some slot)).parent =
      newCubeParent bones (all || c.explicit.parent) c.parent slot.entity.parent := rfl

lemma settledCube_refers {c : Model.Cube K} {claim : Option (Slot (Live.Cube K))}
    (hparent : c.parent ∈ model.bones.ids)
    (h : (settledCube model.bones true (c, claim)).parent = some reference) :
    ∃ q, RefersToDesired model (some c.parent) reference q := by
  cases claim with
  | none =>
    obtain rfl : c.parent = reference := Option.some.inj h
    exact refersToDesired_of_matches hparent (parentMatches_self _ _)
  | some slot =>
    rw [parent_settledCube, Bool.true_or] at h
    have hwritten := cubeParent_written model.bones true slot.entity.parent c.parent
    rw [h] at hwritten
    exact refersToDesired_of_matches hparent (by simpa using hwritten)

end Parents

section Confusions

/-- A reference to a desired bone that a bone to be deleted answers to as well. -/
inductive Confused (model : Model K) (live : Live K) (q : Model.Bone K) (bone : Live.Bone K) :
    String → Prop
  | byId (h : bone.id = some q.name) : Confused model live q bone q.name
  | byName (h : bone.name = q.name) (hid : bone.id.isSome = true) : Confused model live q bone q.name
  | idless (slot : Slot (Live.Bone K)) (hp : (q, some slot) ∈ (boneMatching model live).pairs)
      (hid : slot.entity.id = none) (h : bone.name = q.id) : Confused model live q bone q.id

lemma id_settledBone_eq_none {q : Model.Bone K} {claim : Option (Slot (Live.Bone K))}
    (h : (settledBone model.bones true (q, claim)).id ≠ some q.id) :
    ∃ slot, claim = some slot ∧ slot.entity.id = none := by
  cases claim with
  | none => exact (h rfl).elim
  | some slot =>
    refine ⟨slot, rfl, ?_⟩
    by_contra hsome
    exact h (idChange_orElse.mpr (.inr ⟨Option.isSome_iff_ne_none.mpr hsome, rfl⟩))

lemma confused_of_answers {parent : Option String} {reference : String} {q : Model.Bone K}
    {claim : Option (Slot (Live.Bone K))} {bone : Live.Bone K} {bones : List (Live.Bone K)}
    (hundesired : Undesired model.bones.toList bone) (hq : RefersToDesired model parent reference q)
    (hp : (q, claim) ∈ (boneMatching model live).pairs)
    (hsettled : settledBone model.bones true (q, claim) ∈ bones)
    (h : bone.id = some reference ∨
      bone.name = reference ∧ ∀ other ∈ bones, other.id ≠ some reference) :
    Confused model live q bone reference := by
  rcases hq.reference with rfl | rfl
  · rcases h with hid | ⟨hname, hnone⟩
    · exact (hundesired.id _ hid q hq.mem rfl).elim
    · obtain ⟨slot, rfl, hid⟩ := id_settledBone_eq_none (hnone _ hsettled)
      exact .idless slot hp hid hname
  · rcases h with hid | ⟨hname, -⟩
    · exact .byId hid
    · refine .byName hname (Option.isSome_iff_ne_none.mpr fun hnone => ?_)
      exact hundesired.name hnone q hq.mem hname.symm

end Confusions

lemma final_settledCube (pair : Model.Cube K × Option (Slot (Live.Cube K))) :
    (enactingCubes .all mode deleteOrphans model live).final pair =
      settledCube model.bones mode.comparesAll pair := by
  obtain ⟨c, claim⟩ := pair
  cases claim with
  | none => rfl
  | some slot =>
    cases hstep : cubeStep? model.bones mode.comparesAll (c, some slot) with
    | none =>
      rw [Enacting.final_of_idle _ (congrArg (·.bind Writing.all.cubeAct?) hstep)]
      exact (settledCube_of_no_step hstep).symm
    | some s =>
      have hact := congrArg (·.bind Writing.all.cubeAct?) hstep
      rw [cubeStep?_update hstep] at hact
      rw [Enacting.final_of_overwrite _ hact]
      rfl

section Deletions

lemma eq_leftBoneStep (hs : s ∈ sequence mode deleteOrphans model live) (hkind : s.kind = .deleteBone) :
    ∃ slot ∈ (boneMatching model live).orphans model.bones.toList, s = leftBoneStep slot := by
  rcases List.mem_append.mp hs with hs | hs
  · have hgroup := desiredSteps_groups.1 s hs
    rw [hkind, OpKind.group] at hgroup
    omega
  · rcases mem_leftSteps hs with ⟨slot, -, rfl⟩ | hslot
    · cases hkind
    · exact hslot

lemma rest_deletes (hsplit : sequence mode deleteOrphans model live = done ++ s :: rest)
    (hkind : s.kind = .deleteBone) : ∀ u ∈ s :: rest, u.kind = .deleteBone := by
  have hgroups : (sequence mode deleteOrphans model live).Pairwise fun s t =>
      s.kind.group ≤ t.kind.group := sequence_groups
  rw [hsplit, List.pairwise_append, List.pairwise_cons] at hgroups
  intro u hu
  rcases List.mem_cons.mp hu with rfl | hu
  · exact hkind
  · have hle := hgroups.2.1.1 u hu
    rw [hkind] at hle
    cases hu : u.kind <;> simp_all [OpKind.group]

lemma cubes_run (hsplit : sequence mode deleteOrphans model live = done ++ s :: rest)
    (hkind : s.kind = .deleteBone) : ((Progress.start live).run done).cubes =
      ((sequence mode deleteOrphans model live).filterMap Writing.all.cubeAct?).foldl Act.carryOut
        (track live.cubes) := by
  have hrest : (s :: rest).filterMap Writing.all.cubeAct? = [] := by
    -- what is left to do is to delete bones
    refine List.filterMap_eq_nil_iff.mpr fun u hu => ?_
    have hmem : u ∈ sequence mode deleteOrphans model live := hsplit ▸ List.mem_append_right _ hu
    obtain ⟨slot, -, rfl⟩ := eq_leftBoneStep hmem (rest_deletes hsplit hkind u hu)
    exact Writing.all.cubeAct?_leftBoneStep slot
  rw [← Writing.run_all, hsplit, List.filterMap_append, hrest, List.append_nil]
  rfl

lemma leftBone_present {slot : Slot (Live.Bone K)} (hslot : slot ∈ slots live.bones)
    (hsplit : sequence mode deleteOrphans model live = done ++ leftBoneStep slot :: rest) :
    ⟨some slot.index, slot.entity⟩ ∈ ((Progress.start live).run done).bones := by
  have hnodup : ((sequence mode deleteOrphans model live).filterMap Step.bonePosition?).Nodup :=
    sequence_positions_nodup
  rw [hsplit, List.filterMap_append,
    List.filterMap_cons_some (bonePosition?_leftBoneStep slot)] at hnodup
  obtain ⟨-, -, hbefore⟩ := List.nodup_append.mp hnodup
  exact untouched_mem_run hslot fun hindex => hbefore _ hindex _ List.mem_cons_self rfl

end Deletions

def Progress.resolve? (p : Progress K) (reference : String) : Option (Tracked (Live.Bone K)) :=
  (Plan.resolve? (p.bones.map Tracked.entity) reference).bind fun index => p.bones[index]?

omit [Scalar K] in
lemma answers_of_resolve? {p : Progress K} {reference : String} {t : Tracked (Live.Bone K)}
    (h : p.resolve? reference = some t) : t ∈ p.bones ∧ (t.entity.id = some reference ∨
      t.entity.name = reference ∧
        ∀ other ∈ p.bones.map Tracked.entity, other.id ≠ some reference) := by
  obtain ⟨index, hindex, ht⟩ := Option.bind_eq_some_iff.mp h
  obtain ⟨bone, hbone, hanswers⟩ := resolve?_spec hindex
  rw [List.getElem?_map, ht] at hbone
  obtain rfl := Option.some.inj hbone
  exact ⟨List.mem_of_getElem? ht, hanswers⟩

/-- Why a live entity may stay and hang from a bone that is deleted: it is spared as it is, or it
stands for a desired one and its reference to the desired parent is confused. -/
inductive Stranded {α β : Type} [Desired α] [Named β] (model : Model K) (live : Live K)
    (entities : List β) (l : List α) (parent : α → Option String)
    (settled : α × Option (Slot β) → β) (bone : Live.Bone K) (t : Tracked β) (reference : String) :
    Prop
  | spared (slot : Slot β) (hslot : Spared entities l slot)
      (ht : t = ⟨some slot.index, slot.entity⟩)
  | confused (pair : α × Option (Slot β)) (hp : pair ∈ (matchUp (slots entities) l).pairs)
      (ht : t = ⟨pair.2.map Slot.index, settled pair⟩) (q : Model.Bone K)
      (hq : RefersToDesired model (parent pair.1) reference q)
      (hconfused : Confused model live q bone reference)

/-- What hangs from a bone when it is to be deleted, of that which the plan does not delete. -/
structure Bereaved (model : Model K) (live : Live K) (p : Progress K)
    (slot : Slot (Live.Bone K)) : Prop where
  present : ⟨some slot.index, slot.entity⟩ ∈ p.bones
  bones : ∀ t ∈ p.bones, (∀ left ∈ (sequence .replace true model live).filterMap Step.leftBone?,
    t.origin ≠ some left.index) → ∀ reference, t.entity.parent = some reference →
      (p.resolve? reference).bind Tracked.origin = some slot.index →
        Stranded model live live.bones model.bones.toList Model.Bone.parent
          (settledBone model.bones true) slot.entity t reference
  cubes : ∀ t ∈ p.cubes, ∀ reference, t.entity.parent = some reference →
    (p.resolve? reference).bind Tracked.origin = some slot.index →
      Stranded model live live.cubes model.cubes.toList (fun c => some c.parent)
        (settledCube model.bones true) slot.entity t reference

section Replacing

variable {limits : Limits} (hbones : Model.SoundBones limits model.bones)
  (hcubes : Model.SoundCubes limits model.bones model.cubes)
  (hsplit : sequence .replace true model live = done ++ s :: rest) (hkind : s.kind = .deleteBone)

include hsplit hkind in
lemma carried_before_deletion {pair : Model.Bone K × Option (Slot (Live.Bone K))}
    (hp : pair ∈ (boneMatching model live).pairs) : Carried .replace model done pair := by
  refine carried_of_rest hsplit (fun u hu => ?_) hp
  rw [rest_deletes hsplit hkind u hu]
  exact ⟨nofun, nofun⟩

include hsplit hkind in
lemma confused_before_deletion {slot : Slot (Live.Bone K)} {parent : Option String}
    {reference : String} {q : Model.Bone K} (hs : s = leftBoneStep slot)
    (hslot : slot ∈ (boneMatching model live).orphans model.bones.toList)
    (hq : RefersToDesired model parent reference q)
    (h : (((Progress.start live).run done).resolve? reference).bind Tracked.origin =
      some slot.index) : Confused model live q slot.entity reference := by
  obtain ⟨t, ht, horigin⟩ := Option.bind_eq_some_iff.mp h
  obtain ⟨hm, hanswers⟩ := answers_of_resolve? ht
  obtain ⟨hlive, -, hundesired⟩ := (mem_orphans_iff (slots_distinct live.bones)).mp hslot
  -- the bone to be deleted is still as it was
  obtain rfl := eq_of_filterMap_nodup (origins_nodup live done) hm
    (leftBone_present hlive (hs ▸ hsplit)) horigin rfl
  obtain ⟨claim, hp⟩ := exists_pair (slots live.bones) hq.mem
  have hsettled : settledBone model.bones true (q, claim) ∈
      ((Progress.start live).run done).bones.map Tracked.entity :=
    List.mem_map_of_mem ((carried_before_deletion hsplit hkind hp).mem_run hsplit hp)
  exact confused_of_answers hundesired hq hp hsettled hanswers

include hbones hcubes hsplit hkind in
lemma bereaved {slot : Slot (Live.Bone K)} (hs : s = leftBoneStep slot)
    (hslot : slot ∈ (boneMatching model live).orphans model.bones.toList)
    (hboneIds : (live.bones.filterMap Live.Bone.id).Nodup)
    (hcubeIds : (live.cubes.filterMap Live.Cube.id).Nodup) :
    Bereaved model live ((Progress.start live).run done) slot := by
  have hlive := ((mem_orphans_iff (slots_distinct live.bones)).mp hslot).1
  refine ⟨leftBone_present hlive (hs ▸ hsplit), ?_, ?_⟩
  · intro t ht hkept reference hparent hmeans
    rcases cases_of_mem_run hsplit ht with ⟨pair, hp, -, rfl⟩ | ⟨own, hown, rfl, hopen⟩
    · obtain ⟨q, hq⟩ := settledBone_refers (hbones.parents pair.1 (mem_of_pair hp)) hparent
      exact .confused pair hp rfl q hq (confused_before_deletion hsplit hkind hs hslot hq hmeans)
    · have hfree : ∀ b, (b, some own) ∉ (boneMatching model live).pairs := fun b hp =>
        hopen b hp (carried_before_deletion hsplit hkind hp)
      refine .spared own (spared_of_kept model.bones.nodup hboneIds hown hfree fun horphan => ?_) rfl
      exact hkept own (leftBones_sequence.mem_iff.mpr horphan) rfl
  · intro t ht reference hparent hmeans
    rw [cubes_run hsplit hkind] at ht
    rcases (enactingCubes .all .replace true model live).final_or_left ht with
      ⟨pair, hp, rfl⟩ | ⟨own, hfree, hremoved, rfl⟩
    · rw [final_settledCube] at hparent ⊢
      obtain ⟨q, hq⟩ := settledCube_refers (hcubes.parents pair.1 (mem_of_pair hp)) hparent
      exact .confused pair hp rfl q hq (confused_before_deletion hsplit hkind hs hslot hq hmeans)
    · obtain ⟨hown, hnone⟩ := (mem_free_iff (slots_distinct live.cubes)).mp hfree
      exact .spared own (spared_of_kept model.cubes.nodup hcubeIds hown hnone hremoved) rfl

end Replacing

/-- When a bone is to be deleted, nothing hangs from it but what is to be deleted itself, what is
spared since it has no id and a desired name, and what stands for a desired entity and refers to the
desired parent by a text that the deleted bone answers to as well. -/
theorem replace_bereaved {limits : Limits} {spec : Spec K} {plan : Plan K}
    (hmodel : Model.ofSpec limits spec = .ok model)
    (hboneIds : (live.bones.filterMap Live.Bone.id).Nodup)
    (hcubeIds : (live.cubes.filterMap Live.Cube.id).Nodup)
    (hplan : ofModel .replace true model live = .ok plan) :
    (sequence .replace true model live).map Step.op = plan.ops ∧
      ∀ done s rest, sequence .replace true model live = done ++ s :: rest →
        s.kind = .deleteBone → ∃ slot, s = leftBoneStep slot ∧
          Bereaved model live ((Progress.start live).run done) slot := by
  obtain ⟨-, -, rfl⟩ := ofModel_ok.mp hplan
  refine ⟨sequence_map_op .., fun done s rest hsplit hkind => ?_⟩
  have hs : s ∈ sequence .replace true model live := by
    rw [hsplit]
    exact List.mem_append_right _ List.mem_cons_self
  obtain ⟨slot, hslot, rfl⟩ := eq_leftBoneStep hs hkind
  exact ⟨slot, rfl, bereaved (Model.sound_bones hmodel) (Model.sound_cubes hmodel) hsplit hkind
    rfl hslot hboneIds hcubeIds⟩

def sparedSpec : Spec Float where
  bones := [{ id := some "arm", name := some "Arm" }]
  policy := { enforceRoot := false }

def sparedLive : Live Float where
  bones := [{ Live.Bone.named "Left" with id := some "arm" },
    { Live.Bone.named "Arm" with parent := some "old" },
    { Live.Bone.named "old" with id := some "old" }]

lemma sparedLive_waysUp : ∀ slot ∈ slots sparedLive.bones,
    ∃ way, WayUp sparedLive.bones slot.index way := by
  have hleft : WayUp sparedLive.bones 0 [] := .of_link_none (by decide)
  have hold : WayUp sparedLive.bones 2 [] := .of_link_none (by decide)
  have harm : WayUp sparedLive.bones 1 [1] := .of_link_some (by decide) hold
  simp only [sparedLive, slots, List.zipIdx_cons, List.zipIdx_nil, List.map_cons, List.map_nil,
    List.forall_mem_cons]
  exact ⟨⟨_, hleft⟩, ⟨_, harm⟩, ⟨_, hold⟩, List.forall_mem_nil _⟩

/-- The old bone is deleted, and what hangs from it is not. -/
theorem spared_stranded : ∃ model plan, Model.ofSpec .standard sparedSpec = .ok model ∧
    (sparedLive.bones.filterMap Live.Bone.id).Nodup ∧ (sparedLive.bones.map Live.Bone.name).Nodup ∧
    (sparedLive.cubes.filterMap Live.Cube.id).Nodup ∧ (sparedLive.cubes.map Live.Cube.name).Nodup ∧
    (∀ bone ∈ sparedLive.bones, ∀ r ∈ bone.parent, (resolve? sparedLive.bones r).isSome) ∧
    (∀ cube ∈ sparedLive.cubes, ∀ r ∈ cube.parent, (resolve? sparedLive.bones r).isSome) ∧
    (∀ slot ∈ slots sparedLive.bones, ∃ way, WayUp sparedLive.bones slot.index way) ∧
    ofModel .replace true model sparedLive = .ok plan ∧
    (sequence .replace true model sparedLive).map Step.op = plan.ops ∧
    ∃ done slot rest, sequence .replace true model sparedLive = done ++ leftBoneStep slot :: rest ∧
      ∃ t ∈ ((Progress.start sparedLive).run done).bones,
        (∀ left ∈ (sequence .replace true model sparedLive).filterMap Step.leftBone?,
          t.origin ≠ some left.index) ∧
          ∃ reference, t.entity.parent = some reference ∧
            (((Progress.start sparedLive).run done).resolve? reference).bind Tracked.origin =
              some slot.index := by
  obtain ⟨model, hm⟩ : ∃ model, Model.ofSpec .standard sparedSpec = .ok model :=
    Attempts.exists_ok (by decide +kernel)
  have hdeletion : ((sequence .replace true model sparedLive).drop 1).length = 1 ∧
      ∃ s ∈ (sequence .replace true model sparedLive).drop 1, s.kind = .deleteBone ∧
        ∃ t ∈ ((Progress.start sparedLive).run
            ((sequence .replace true model sparedLive).take 1)).bones,
          (∀ left ∈ (sequence .replace true model sparedLive).filterMap Step.leftBone?,
            t.origin ≠ some left.index) ∧
            t.entity.parent = some "old" ∧
              (((Progress.start sparedLive).run
                ((sequence .replace true model sparedLive).take 1)).resolve? "old").bind
                  Tracked.origin = s.leftBone?.map Slot.index := by
    apply Attempts.holds_of_all hm
    decide +kernel
  obtain ⟨hlength, s, hs, hkind, t, ht, hkept, hparent, hmeans⟩ := hdeletion
  obtain ⟨slot, -, rfl⟩ := eq_leftBoneStep (List.mem_of_mem_drop hs) hkind
  obtain ⟨other, hdrop⟩ := List.length_eq_one_iff.mp hlength
  rw [hdrop, List.mem_singleton] at hs
  have hsplit : sequence .replace true model sparedLive =
      (sequence .replace true model sparedLive).take 1 ++ [leftBoneStep slot] := by
    rw [hs, ← hdrop, List.take_append_drop]
  exact ⟨model, _, hm, by decide, by decide, by decide, by decide, by decide, by decide,
    sparedLive_waysUp, ofModel_ok.mpr ⟨rfl, rfl, rfl⟩, sequence_map_op .., _, slot, [], hsplit, t, ht,
    hkept, "old", hparent, hmeans⟩

theorem replace_bereaved_spared : ∃ model plan, Model.ofSpec .standard sparedSpec = .ok model ∧
    (sparedLive.bones.filterMap Live.Bone.id).Nodup ∧
    (sparedLive.cubes.filterMap Live.Cube.id).Nodup ∧
    ofModel .replace true model sparedLive = .ok plan ∧ plan.ops.length = 2 ∧
      (sequence .replace true model sparedLive).map Step.op = plan.ops ∧
        ∀ done s rest, sequence .replace true model sparedLive = done ++ s :: rest →
          s.kind = .deleteBone → ∃ slot, s = leftBoneStep slot ∧
            Bereaved model sparedLive ((Progress.start sparedLive).run done) slot := by
  obtain ⟨model, hm⟩ : ∃ model, Model.ofSpec .standard sparedSpec = .ok model :=
    Attempts.exists_ok (by decide +kernel)
  have hlength : (opsFor .replace true model sparedLive).length = 2 := by
    apply Attempts.holds_of_all hm
    decide +kernel
  obtain ⟨plan, hplan, hops⟩ : ∃ plan, ofModel .replace true model sparedLive = .ok plan ∧
      plan.ops.length = 2 := ⟨_, ofModel_ok.mpr ⟨rfl, rfl, rfl⟩, hlength⟩
  have hboneIds : (sparedLive.bones.filterMap Live.Bone.id).Nodup := by decide
  have hcubeIds : (sparedLive.cubes.filterMap Live.Cube.id).Nodup := by decide
  exact ⟨model, plan, hm, hboneIds, hcubeIds, hplan, hops, replace_bereaved hm hboneIds hcubeIds hplan⟩

end Armature.Plan
