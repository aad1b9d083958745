import Armature.Proofs.SetAttributes
import Mathlib.Data.List.TakeWhile

/-! The ids and names that updates write. A blank one is no id and no name when the identity of an
entry is made out, but counts as set when it is compared; so a derived id, or a name that is the id,
can take the place of a live one. -/

namespace Armature.Plan

def Supplied (text : Option String) : Prop := ∃ s ∈ text, Text.isBlank s = false

def Blank (text : Option String) : Prop := ∃ s ∈ text, Text.isBlank s = true

section Blanks

variable {text : Option String}

lemma isSome_iff_supplied_or_blank : text.isSome = true ↔ Supplied text ∨ Blank text := by
  cases text with
  | none => simp [Supplied, Blank]
  | some s => cases h : Text.isBlank s <;> simp [Supplied, Blank, h]

lemma Blank.not_supplied (h : Blank text) : ¬ Supplied text := by
  rintro ⟨s, hs, hfalse⟩
  obtain ⟨t, ht, htrue⟩ := h
  obtain rfl := Option.mem_unique hs ht
  cases hfalse.symm.trans htrue

lemma unsupplied_iff {p : Prop} :
    (text.isSome = true ∧ p) ∧ ¬ Supplied text ↔ Blank text ∧ p := by
  rw [isSome_iff_supplied_or_blank]
  constructor
  · rintro ⟨⟨hset, hp⟩, hnot⟩
    exact ⟨hset.resolve_left hnot, hp⟩
  · rintro ⟨hblank, hp⟩
    exact ⟨⟨.inr hblank, hp⟩, hblank.not_supplied⟩

lemma filter_blank (h : Blank text) : (text.filter fun s => !Text.isBlank s) = none := by
  obtain ⟨s, hs, hblank⟩ := h
  simp [Option.mem_def.mp hs, hblank]

lemma trim_blank {s : String} (h : Text.isBlank s = true) : Text.trim s = "" := by
  have hall : s.toList.dropWhile Text.isBlankChar = [] :=
    List.dropWhile_eq_nil_iff.mpr (List.all_eq_true.mp h)
  rw [Text.trim, hall]
  rfl

lemma given?_blank (h : Blank text) : Identity.given? text = none := by
  obtain ⟨s, hs, hblank⟩ := h
  simp [Identity.given?, Option.mem_def.mp hs, trim_blank hblank]

end Blanks

variable {K : Type}

/-- What an update writes for the id and the name of a live entity, where `id`, `name` and `parent`
are those of an entry. -/
structure Renaming (K : Type) (policy : IdPolicy) (kind : Kind) (id name parent : Option String)
    (desired : String × String) (live : Option String × String)
    (written : Option String × Option String) : Prop where
  identity : Spec.identify (K := K) policy kind 0 id name parent = .ok desired
  written_id : ∀ new ∈ written.1, new = desired.1
  written_name : ∀ new ∈ written.2, new = desired.2
  /-- An id that no one supplied is written exactly if a blank one counts as set. -/
  derived_id : written.1.isSome = true ∧ ¬ Supplied id ↔
    Blank id ∧ ∃ old ∈ live.1, old ≠ desired.1
  blank_id : Blank id → Spec.identify (K := K) policy kind 0 none name parent = .ok desired
  default_name : written.2.isSome = true ∧ ¬ Supplied name ↔ Blank name ∧ live.2 ≠ desired.2
  blank_name : Blank name → desired.2 = desired.1

section Identities

variable {policy : IdPolicy} {kind : Kind} {index : ℕ} {id name parent : Option String}
  {desired : String × String}

lemma identify_blank_id (h : Blank id)
    (hidentity : Spec.identify (K := K) policy kind index id name parent = .ok desired) :
    Spec.identify (K := K) policy kind index none name parent = .ok desired := by
  have hnone : Identity.given? none = none := rfl
  simpa only [Spec.identify, Identity.resolve?, filter_blank h, given?_blank h, Option.filter_none,
    hnone] using hidentity

lemma identify_blank_name (h : Blank name)
    (hidentity : Spec.identify (K := K) policy kind index id name parent = .ok desired) :
    desired.2 = desired.1 := by
  obtain ⟨-, -, -, hname⟩ := Model.identify_ok hidentity
  rw [hname, filter_blank h]
  rfl

lemma idChange_isSome {set : Bool} {desired : String} {live : Option String} :
    (idChange set desired live).isSome = true ↔ set = true ∧ ∃ old ∈ live, old ≠ desired := by
  cases live with
  | none => simp [idChange]
  | some old => cases set <;> simp [idChange]

lemma nameChange_isSome {set : Bool} {desired live : String} :
    (nameChange set desired live).isSome = true ↔ set = true ∧ live ≠ desired := by
  cases set with
  | false => simp [nameChange]
  | true => simpa [nameChange] using not_congr eq_comm

lemma renaming_of_identify {live : Option String × String}
    (hidentity : Spec.identify (K := K) policy kind 0 id name parent = .ok desired) :
    Renaming K policy kind id name parent desired live
      (idChange id.isSome desired.1 live.1, nameChange name.isSome desired.2 live.2) where
  identity := hidentity
  written_id new hnew := by
    obtain ⟨old, -, hnew⟩ := Option.bind_eq_some_iff.mp hnew
    simp only [Option.ite_none_right_eq_some, Option.some.injEq] at hnew
    exact hnew.2.symm
  written_name new hnew := by
    simp only [nameChange, Option.mem_def, Option.ite_none_right_eq_some, Option.some.injEq] at hnew
    exact hnew.2.symm
  derived_id := by
    rw [idChange_isSome]
    exact unsupplied_iff
  blank_id hblank := identify_blank_id hblank hidentity
  default_name := by
    rw [nameChange_isSome]
    exact unsupplied_iff
  blank_name hblank := identify_blank_name hblank hidentity

end Identities

section Plans

variable [Scalar K] {limits : Limits} {spec : Spec K} {model : Model K} {mode : Mode}
  {deleteOrphans : Bool} {live : Live K} {plan : Plan K}

/-- In `merge` and `patch` an update writes an id or a name that the entry supplies, or, exactly if
the entry has a blank one that differs from the live one, what stands in for it. -/
theorem ofModel_renames (hmodel : Model.ofSpec limits spec = .ok model)
    (hmode : mode = .merge ∨ mode = .patch)
    (hplan : ofModel mode deleteOrphans model live = .ok plan) :
    plan.ops = (sequence mode deleteOrphans model live).map Step.op ∧
    ∀ step ∈ sequence mode deleteOrphans model live,
      (∀ id name changes toTop, step.op = .updateBone id name changes toTop →
        ∃ b ∈ model.bones.toList, step.bone? = some b ∧ ∀ entry ∈ spec.bones,
          Model.Describes (Spec.Bone.resolve spec.policy) entry b.id →
            Renaming K spec.policy.idPolicy .bone entry.id entry.name
              (entry.parent <|> spec.policy.parent?) (b.id, b.name) (id, name)
              (changes.id, changes.name)) ∧
      ∀ id name changes toRoot, step.op = .updateCube id name changes toRoot →
        ∃ c ∈ model.cubes.toList, step.cube? = some c ∧ ∀ entry ∈ spec.cubes,
          Model.Describes (Spec.Cube.resolve spec.policy) entry c.id →
            Renaming K spec.policy.idPolicy .cube entry.id entry.name
              (entry.parent <|> spec.policy.parent?) (c.id, c.name) (id, name)
              (changes.id, changes.name) := by
  have hall : mode.comparesAll = false := by rcases hmode with rfl | rfl <;> rfl
  refine ⟨?_, fun step hstep => ⟨fun id name changes toTop hop => ?_,
    fun id name changes toRoot hop => ?_⟩⟩
  · rw [(ofModel_ok.mp hplan).2.2, sequence_map_op]
  · obtain ⟨b, hb, slot, hs⟩ := exists_of_updateBone hstep hop
    rw [hall] at hs
    refine ⟨b, hb, boneStep?_bone? hs, fun entry hentry hdescribes => ?_⟩
    obtain ⟨hidentity, hset, -⟩ := Model.bone_described hmodel hb hentry hdescribes
    rw [boneStep?_update hs] at hop
    cases hop
    simp only [diffBone, hset, Spec.Bone.flags, Bool.false_or]
    exact renaming_of_identify hidentity
  · obtain ⟨c, hc, slot, hs⟩ := exists_of_updateCube hstep hop
    rw [hall] at hs
    refine ⟨c, hc, cubeStep?_cube? hs, fun entry hentry hdescribes => ?_⟩
    obtain ⟨hidentity, hset⟩ := Model.cube_described hmodel hc hentry hdescribes
    rw [cubeStep?_update hs] at hop
    cases hop
    simp only [diffCube, hset, Spec.Cube.flags, Bool.false_or]
    exact renaming_of_identify hidentity

end Plans

def blankSpec : Spec Float where
  bones := [{ id := some " ", name := some "Arm" }, { id := some "leg", name := some " " }]
  policy := { enforceRoot := false }

def blankLive : Live Float where
  bones := [{ Live.Bone.named "Arm" with id := some "limb" },
    { Live.Bone.named "Leg" with id := some "leg" }]

/-- The desired bone of an update with the id and the name that it writes. -/
def Step.renamed? (s : Step K) : Option (String × Option String × Option String) :=
  match s.subject, s.op with
  | .bone b _, .updateBone _ _ changes _ => some (b.id, changes.id, changes.name)
  | _, _ => none

lemma renamed?_eq_some {s : Step K} {bone : String} {newId newName : Option String}
    (h : s.renamed? = some (bone, newId, newName)) :
    ∃ b id name changes toTop, s.bone? = some b ∧ s.op = .updateBone id name changes toTop ∧
      b.id = bone ∧ changes.id = newId ∧ changes.name = newName := by
  obtain ⟨op, subject⟩ := s
  unfold Step.renamed? at h
  split at h
  · next b _ id name changes toTop hsubject hop =>
    cases h
    refine ⟨b, id, name, changes, toTop, ?_, hop, rfl, rfl, rfl⟩
    rw [Step.bone?, hsubject]
  · cases h

lemma describes_of_id {policy : Spec.Policy Float} {entry : Spec.Bone Float} {id : String}
    (h : (entry.resolve policy 0).toOption.map Model.Bone.id = some id) :
    Model.Describes (Spec.Bone.resolve policy) entry id := by
  obtain ⟨b, hb, hid⟩ := Option.map_eq_some_iff.mp h
  obtain ⟨b', hb'⟩ := Attempts.exists_ok (Option.isSome_of_eq_some hb)
  rw [hb'] at hb
  exact ⟨b, ⟨0, hb'.trans (congrArg Except.ok (Option.some.inj hb))⟩, hid⟩

lemma blanks_renamed : ∃ model, Model.ofSpec .standard blankSpec = .ok model ∧
    (sequence .merge false model blankLive).filterMap Step.renamed? =
      [("bone_arm", some "bone_arm", none), ("leg", none, some "leg")] := by
  obtain ⟨model, hmodel⟩ : ∃ model, Model.ofSpec .standard blankSpec = .ok model :=
    Attempts.exists_ok (by decide +kernel)
  refine ⟨model, hmodel, ?_⟩
  apply Attempts.holds_of_all hmodel
  decide +kernel

/-- The live limb gets an id that is derived, and the live leg its id for a name. -/
theorem blank_rekeyed : ∃ model plan, Model.ofSpec .standard blankSpec = .ok model ∧
    ofModel .merge false model blankLive = .ok plan ∧
    plan.ops = (sequence .merge false model blankLive).map Step.op ∧
    (∃ step ∈ sequence .merge false model blankLive, ∃ b id name changes toTop,
      step.bone? = some b ∧ step.op = .updateBone id name changes toTop ∧
      changes.id.isSome = true ∧ ∃ entry ∈ blankSpec.bones,
        Model.Describes (Spec.Bone.resolve blankSpec.policy) entry b.id ∧ ¬ Supplied entry.id) ∧
    ∃ step ∈ sequence .merge false model blankLive, ∃ b id name changes toTop,
      step.bone? = some b ∧ step.op = .updateBone id name changes toTop ∧
      changes.name.isSome = true ∧ ∃ entry ∈ blankSpec.bones,
        Model.Describes (Spec.Bone.resolve blankSpec.policy) entry b.id ∧ ¬ Supplied entry.name := by
  obtain ⟨model, hmodel, hrenamed⟩ := blanks_renamed
  have hblank : Blank (some " ") := ⟨" ", rfl, by decide⟩
  refine ⟨model, _, hmodel, ofModel_ok.mpr ⟨rfl, rfl, rfl⟩, (sequence_map_op ..).symm, ?_, ?_⟩
  · obtain ⟨step, hstep, hs⟩ := List.mem_filterMap.mp (hrenamed ▸ List.mem_cons_self)
    obtain ⟨b, id, name, changes, toTop, hb, hop, hid, hnew, -⟩ := renamed?_eq_some hs
    refine ⟨step, hstep, b, id, name, changes, toTop, hb, hop, by rw [hnew]; rfl, _,
      List.mem_cons_self, ?_, hblank.not_supplied⟩
    rw [hid]
    exact describes_of_id (by decide +kernel)
  · obtain ⟨step, hstep, hs⟩ :=
      List.mem_filterMap.mp (hrenamed ▸ List.mem_cons_of_mem _ List.mem_cons_self)
    obtain ⟨b, id, name, changes, toTop, hb, hop, hid, -, hnew⟩ := renamed?_eq_some hs
    refine ⟨step, hstep, b, id, name, changes, toTop, hb, hop, by rw [hnew]; rfl, _,
      List.mem_cons_of_mem _ List.mem_cons_self, ?_, hblank.not_supplied⟩
    rw [hid]
    exact describes_of_id (by decide +kernel)

theorem ofModel_renames_blanks : ∃ model plan, Model.ofSpec .standard blankSpec = .ok model ∧
    ofModel .merge false model blankLive = .ok plan ∧
    ∃ step ∈ sequence .merge false model blankLive, ∃ b id name changes toTop,
      step.bone? = some b ∧ step.op = .updateBone id name changes toTop ∧
      ∃ entry ∈ blankSpec.bones, Renaming Float blankSpec.policy.idPolicy .bone entry.id entry.name
        (entry.parent <|> blankSpec.policy.parent?) (b.id, b.name) (id, name)
        (changes.id, changes.name) := by
  obtain ⟨model, hmodel, hrenamed⟩ := blanks_renamed
  have hplan : ofModel .merge false model blankLive = .ok _ := ofModel_ok.mpr ⟨rfl, rfl, rfl⟩
  obtain ⟨step, hstep, hs⟩ := List.mem_filterMap.mp (hrenamed ▸ List.mem_cons_self)
  obtain ⟨b, id, name, changes, toTop, hb, hop, hid, -⟩ := renamed?_eq_some hs
  obtain ⟨-, hrenames⟩ := ofModel_renames hmodel (.inl rfl) hplan
  obtain ⟨b', -, hb', hentry⟩ := (hrenames step hstep).1 id name changes toTop hop
  obtain rfl := Option.some.inj (hb.symm.trans hb')
  refine ⟨model, _, hmodel, hplan, step, hstep, b, id, name, changes, toTop, hb, hop, _,
    List.mem_cons_self, hentry _ List.mem_cons_self ?_⟩
  rw [hid]
  exact describes_of_id (by decide +kernel)

end Armature.Plan
