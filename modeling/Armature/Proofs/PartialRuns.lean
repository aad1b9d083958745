import Armature.Proofs.Replanning

/-! The bones after a part of a plan. Each one is as the snapshot has it or as the plan leaves it,
and the latter once no step on it is to come. -/

namespace Armature.Plan

variable {K : Type} [Scalar K] {mode : Mode} {deleteOrphans : Bool} {model : Model K} {live : Live K}
  {done rest : List (Step K)} {s : Step K} {t : Tracked (Live.Bone K)}
  {pair : Model.Bone K × Option (Slot (Live.Bone K))}

/-- No step on the bone is to come, or there is none at all. -/
def Carried (mode : Mode) (model : Model K) (done : List (Step K))
    (pair : Model.Bone K × Option (Slot (Live.Bone K))) : Prop :=
  ∀ s, boneStep? model.bones mode.comparesAll pair = some s → s ∈ done

lemma boneAct?_sequence {w : Writing K} {act : Act (Live.Bone K)}
    (hs : s ∈ sequence mode deleteOrphans model live) (hact : w.boneAct? s = some act) :
    (∃ pair ∈ (boneMatching model live).pairs,
        boneStep? model.bones mode.comparesAll pair = some s) ∨
      ∃ index, act = .remove index := by
  rcases List.mem_append.mp hs with hs | hs
  · rcases mem_desiredSteps hs with hbone | ⟨_, -, hcube⟩
    · exact .inl hbone
    · rw [w.boneAct?_cubeStep hcube] at hact
      cases hact
  · rcases mem_leftSteps hs with ⟨slot, -, rfl⟩ | ⟨slot, -, rfl⟩
    · cases hact
    · exact .inr ⟨slot.index, (Option.some.inj hact).symm⟩

lemma pair_of_append {w : Writing K} {bone : Live.Bone K}
    (hs : s ∈ sequence mode deleteOrphans model live) (hact : w.boneAct? s = some (.append bone)) :
    ∃ b, (b, none) ∈ (boneMatching model live).pairs ∧ bone = b.toLive ∧
      boneStep? model.bones mode.comparesAll (b, none) = some s := by
  rcases boneAct?_sequence hs hact with ⟨⟨b, claim⟩, hp, hstep⟩ | ⟨index, hremove⟩
  · cases claim with
    | none =>
      obtain rfl := Option.some.inj hstep
      exact ⟨b, hp, (Act.append.inj (Option.some.inj hact)).symm, hstep⟩
    | some slot =>
      rw [boneStep?_update hstep] at hact
      cases hact
  · cases hremove

lemma pair_of_overwrite {w : Writing K} {index : ℕ} {change : Live.Bone K → Live.Bone K}
    (hs : s ∈ sequence mode deleteOrphans model live)
    (hact : w.boneAct? s = some (.overwrite index change)) :
    ∃ b slot, (b, some slot) ∈ (boneMatching model live).pairs ∧ slot.index = index ∧
      boneStep? model.bones mode.comparesAll (b, some slot) = some s := by
  rcases boneAct?_sequence hs hact with ⟨⟨b, claim⟩, hp, hstep⟩ | ⟨_, hremove⟩
  · cases claim with
    | none =>
      obtain rfl := Option.some.inj hstep
      cases hact
    | some slot =>
      rw [boneStep?_update hstep] at hact
      exact ⟨b, slot, hp, (Act.overwrite.inj (Option.some.inj hact)).1, hstep⟩
  · cases hremove

lemma carried_of_mem (h : boneStep? model.bones mode.comparesAll pair = some s) (hs : s ∈ done) :
    Carried mode model done pair := by
  intro u hu
  obtain rfl := Option.some.inj (h.symm.trans hu)
  exact hs

lemma Carried.mem_run (h : Carried mode model done pair)
    (hsplit : sequence mode deleteOrphans model live = done ++ rest)
    (hp : pair ∈ (boneMatching model live).pairs) :
    ⟨pair.2.map Slot.index, settledBone model.bones mode.comparesAll pair⟩ ∈
      ((Progress.start live).run done).bones :=
  settledBone_mem_run hp hsplit h

/-- After a part of a plan, a bone is what the plan makes of a desired one, with no step on it to
come; or it is as the snapshot has it, with a step on it to come if it stands for a desired one. -/
lemma cases_of_mem_run (hsplit : sequence mode deleteOrphans model live = done ++ rest)
    (ht : t ∈ ((Progress.start live).run done).bones) :
    (∃ pair ∈ (boneMatching model live).pairs, Carried mode model done pair ∧
        t = ⟨pair.2.map Slot.index, settledBone model.bones mode.comparesAll pair⟩) ∨
      ∃ slot ∈ slots live.bones, t = ⟨some slot.index, slot.entity⟩ ∧
        ∀ b, (b, some slot) ∈ (boneMatching model live).pairs →
          ¬ Carried mode model done (b, some slot) := by
  have hsub : ∀ {u}, u ∈ done → u ∈ sequence mode deleteOrphans model live := fun hu =>
    hsplit ▸ List.mem_append_left _ hu
  have hacts := ht
  rw [← Writing.run_all] at hacts
  -- a bone of the snapshot, or one that was created on the way
  rcases Act.mem_foldl_carryOut.mp hacts with ⟨first, hfirst, hfate⟩ | ⟨bone, happend, rfl⟩
  · obtain ⟨slot, hslot, rfl⟩ := List.mem_map.mp hfirst
    by_cases hcarried : ∃ b, (b, some slot) ∈ (boneMatching model live).pairs ∧
        Carried mode model done (b, some slot)
    · obtain ⟨b, hp, hc⟩ := hcarried
      refine .inl ⟨_, hp, hc, ?_⟩
      exact eq_of_filterMap_nodup (origins_nodup live done) ht (hc.mem_run hsplit hp)
        (Act.origin_of_foldlM_on hfate) rfl
    · refine .inr ⟨slot, hslot, Act.eq_of_foldlM_on hfate fun index change hm horigin => ?_,
        fun b hp hc => hcarried ⟨b, hp, hc⟩⟩
      obtain ⟨u, hu, hact⟩ := List.mem_filterMap.mp hm
      obtain ⟨b, other, hp, rfl, hstep⟩ := pair_of_overwrite (hsub hu) hact
      have hother := mem_free_of_claim (slots_distinct live.bones) hp rfl
      obtain rfl := List.inj_on_of_nodup_map (slots_distinct live.bones) hslot hother
        (Option.some.inj horigin)
      exact hcarried ⟨b, hp, carried_of_mem hstep hu⟩
  · obtain ⟨u, hu, hact⟩ := List.mem_filterMap.mp happend
    obtain ⟨b, hp, rfl, hstep⟩ := pair_of_append (hsub hu) hact
    exact .inl ⟨_, hp, carried_of_mem hstep hu, rfl⟩

/-- Once no bone is to be created or updated, all desired ones are as the plan leaves them. -/
lemma carried_of_rest (hsplit : sequence mode deleteOrphans model live = done ++ rest)
    (hrest : ∀ s ∈ rest, s.kind ≠ .createBone ∧ s.kind ≠ .updateBone)
    (hp : pair ∈ (boneMatching model live).pairs) : Carried mode model done pair := by
  intro u hu
  have hmem : u ∈ sequence mode deleteOrphans model live := mem_sequence_of_boneStep hp hu
  rw [hsplit] at hmem
  refine (List.mem_append.mp hmem).resolve_right fun hm => ?_
  obtain ⟨hcreate, hupdate⟩ := hrest u hm
  have hgroup := boneStep?_group hu
  cases hkind : u.kind <;> simp_all [OpKind.group]

/-- A bone that stands for no desired one stays as it is, unless it may be deleted. -/
lemma unclaimed_mem_run {slot : Slot (Live.Bone K)} (hmode : mode ≠ .replace)
    (hslot : slot ∈ slots live.bones)
    (hfree : ∀ b, (b, some slot) ∉ (boneMatching model live).pairs) :
    ⟨some slot.index, slot.entity⟩ ∈
      ((Progress.start live).run (sequence mode deleteOrphans model live)).bones := by
  have hleft : leftSteps mode deleteOrphans model live = [] :=
    leftSteps_eq_nil (fun h => (hmode h.1).elim) fun h => (hmode h.1).elim
  refine untouched_mem_run hslot fun hindex => ?_
  obtain ⟨u, hu, hposition⟩ := List.mem_filterMap.mp hindex
  rw [sequence, hleft, List.append_nil] at hu
  rcases mem_desiredSteps hu with ⟨⟨b, claim⟩, hp, hstep⟩ | ⟨_, -, hstep⟩
  · rw [bonePosition?_boneStep hstep] at hposition
    obtain ⟨other, rfl, hother⟩ := Option.map_eq_some_iff.mp hposition
    have hm := mem_free_of_claim (slots_distinct live.bones) hp rfl
    obtain rfl := List.inj_on_of_nodup_map (slots_distinct live.bones) hm hslot hother
    exact hfree b hp
  · rw [bonePosition?_cubeStep hstep] at hposition
    cases hposition

end Armature.Plan
