import Armature.Proofs.Bearers
import Armature.Proofs.Replanning

/-! The ids and names of live entities after a merge or a patch. A name that was not set is not
written, and what is not desired stays: so a desired entity may come to bear a name that another
live one goes on bearing, and this is the only way in which names clash. -/

namespace Armature.Plan

section Lists

variable {α β : Type} {l : List α}

lemma filterMap_append_perm {f : α → β} {g h : α → Option β}
    (hl : ∀ a ∈ l, g a = some (f a) ∧ h a = none ∨ g a = none ∧ h a = some (f a)) :
    (l.filterMap g ++ l.filterMap h).Perm (l.map f) := by
  induction l with
  | nil => exact .refl _
  | cons a l ih =>
    obtain ⟨ha, hl⟩ := List.forall_mem_cons.mp hl
    rw [List.map_cons]
    rcases ha with ⟨hg, hh⟩ | ⟨hg, hh⟩
    · rw [List.filterMap_cons_some hg, List.filterMap_cons_none hh]
      exact (ih hl).cons (f a)
    · rw [List.filterMap_cons_none hg, List.filterMap_cons_some hh]
      exact List.perm_middle.trans ((ih hl).cons (f a))

lemma filterMap_nodup_iff {key : α → Option β} (h : l.Nodup) : (l.filterMap key).Nodup ↔
    ∀ a ∈ l, ∀ b ∈ l, ∀ k, key a = some k → key b = some k → a = b := by
  constructor
  · exact fun hkeys a ha b hb k => eq_of_filterMap_nodup hkeys ha hb
  · intro hinj
    refine List.pairwise_filterMap.mpr (h.imp_of_mem fun ha hb hne k hk k' hk' he => ?_)
    exact hne (hinj _ ha _ hb k hk (he ▸ hk'))

end Lists

variable {α β : Type} [Desired α] [Named β]

namespace Mark

def of : Mark → β → Option String
  | .id, b => Named.id? b
  | .name, b => some (Named.name b)

def desired : Mark → α → String
  | .id, a => Identified.id a
  | .name, a => Desired.name a

lemma fits_iff {mark : Mark} {a : α} {b : β} :
    mark.fits b a = true ↔ mark.of b = some (mark.desired a) := by
  cases mark <;> simp [fits, of, desired]

lemma of_renamed (mark : Mark) {a : α} {b b' : β} (h : Renames a b b') :
    mark.of b' = mark.of b ∨ mark.of b' = some (mark.desired a) := by
  cases mark with
  | id => exact h.id
  | name => exact h.name.imp (congrArg some) (congrArg some)

end Mark

lemma Apart.eq_of_desired {l : List α} (h : Apart l) {mark : Mark} {a c : α} (ha : a ∈ l)
    (hc : c ∈ l) (he : mark.desired a = mark.desired c) : a = c := by
  cases mark with
  | id => exact List.inj_on_of_nodup_map h.ids ha hc he
  | name => exact List.inj_on_of_nodup_map h.names ha hc he

namespace Enacting

variable {make : α → β} {live : List β} {l : List α} {removed : List (Slot β)} {acts : List (Act β)}
  {pair : α × Option (Slot β)} {mark : Mark}

/-- What becomes of the live entity that a desired one claims. -/
def kept (e : Enacting make live l removed acts) (pair : α × Option (Slot β)) : Option (Tracked β) :=
  pair.2.map fun slot => ⟨some slot.index, e.final pair⟩

/-- What is made for a desired entity that claims none. -/
def made (e : Enacting make live l removed acts) (pair : α × Option (Slot β)) : Option (Tracked β) :=
  (e.act? pair).bind Act.made?

lemma filterMap_fate_claimed (e : Enacting make live l removed acts) :
    (matchUp (slots live) l).claimed.filterMap (fate acts) =
      (matchUp (slots live) l).pairs.filterMap e.kept := by
  rw [Matching.claimed, List.filterMap_filterMap]
  refine List.filterMap_congr fun pair hp => ?_
  obtain ⟨a, claim⟩ := pair
  cases claim with
  | none => rfl
  | some slot => exact e.fate_claimed hp

lemma filterMap_fate_free (e : Enacting make live l removed acts) (hnone : removed = []) :
    (matchUp (slots live) l).free.filterMap (fate acts) =
      (matchUp (slots live) l).free.map fun slot => ⟨some slot.index, slot.entity⟩ := by
  rw [← List.filterMap_eq_map]
  exact List.filterMap_congr fun slot hfree => e.fate_left hfree (hnone ▸ List.not_mem_nil)

lemma filterMap_fate_perm (e : Enacting make live l removed acts) (hnone : removed = []) :
    ((slots live).filterMap (fate acts)).Perm
      ((matchUp (slots live) l).pairs.filterMap e.kept ++
        (matchUp (slots live) l).free.map fun slot => ⟨some slot.index, slot.entity⟩) := by
  have hslots := (matchUp_perm (slots_distinct live) l).symm.filterMap (fate acts)
  rwa [List.filterMap_append, e.filterMap_fate_claimed, e.filterMap_fate_free hnone] at hslots

lemma filterMap_made_perm (e : Enacting make live l removed acts) :
    (acts.filterMap Act.made?).Perm ((matchUp (slots live) l).pairs.filterMap e.made) := by
  have hremove : ∀ slot : Slot β, (Act.remove slot.index : Act β).made? = none := fun _ => rfl
  refine (e.perm.filterMap Act.made?).trans (.of_eq ?_)
  rw [enacted, List.filterMap_append, filterMap_map_none hremove, List.append_nil,
    List.filterMap_filterMap]
  rfl

lemma made_some (e : Enacting make live l removed acts) (a : α) (slot : Slot β) :
    e.made (a, some slot) = none := by
  rw [made]
  cases hact : e.act? (a, some slot) with
  | none => rfl
  | some act =>
    obtain ⟨change, rfl, -⟩ := e.update a slot act hact
    rfl

/-- A desired entity has either what it claims or what was made for it. -/
lemma kept_made_perm (e : Enacting make live l removed acts) :
    ((matchUp (slots live) l).pairs.filterMap e.kept ++
      (matchUp (slots live) l).pairs.filterMap e.made).Perm
        ((matchUp (slots live) l).pairs.map fun pair => ⟨pair.2.map Slot.index, e.final pair⟩) := by
  refine filterMap_append_perm fun pair _ => ?_
  obtain ⟨a, claim⟩ := pair
  cases claim with
  | none => exact .inr ⟨rfl, by simp [made, e.create, Act.made?, final]⟩
  | some slot => exact .inl ⟨rfl, e.made_some a slot⟩

/-- After acts that remove nothing, everything that is there stands for a desired entity or was left
over. -/
lemma final_perm (e : Enacting make live l removed acts) (hnone : removed = []) :
    ((acts.foldl Act.carryOut (track live)).map Tracked.entity).Perm
      ((matchUp (slots live) l).pairs.map e.final ++
        (matchUp (slots live) l).free.map Slot.entity) := by
  have hstay : (track live).filterMap (acts.foldlM Act.on) =
      (slots live).filterMap (fate acts) := by
    rw [track, List.filterMap_map]
    rfl
  have hall : (acts.foldl Act.carryOut (track live)).Perm
      (((matchUp (slots live) l).pairs.map fun pair => ⟨pair.2.map Slot.index, e.final pair⟩) ++
        (matchUp (slots live) l).free.map fun slot => ⟨some slot.index, slot.entity⟩) := by
    rw [Act.foldl_carryOut_eq, hstay]
    refine ((e.filterMap_fate_perm hnone).append e.filterMap_made_perm).trans
      (.trans ?_ (e.kept_made_perm.append_right _))
    rw [List.append_assoc, List.append_assoc]
    exact List.perm_append_comm.append_left _
  simpa [Function.comp_def] using hall.map Tracked.entity

/-- A desired entity comes to bear its mark, having been created or having borne another one. -/
def Takes (e : Enacting make live l removed acts) (mark : Mark) (pair : α × Option (Slot β)) :
    Prop :=
  mark.of (e.final pair) = some (mark.desired pair.1) ∧
    ∀ slot ∈ pair.2, mark.of slot.entity ≠ some (mark.desired pair.1)

lemma takes_of_created (e : Enacting make live l removed acts) (mark : Mark) (a : α) :
    e.Takes mark (a, none) :=
  ⟨Mark.fits_iff.mp (e.fits a mark), nofun⟩

lemma of_final_of_not_takes (e : Enacting make live l removed acts) {a : α} {slot : Slot β}
    (h : ¬ e.Takes mark (a, some slot)) :
    mark.of (e.final (a, some slot)) = mark.of slot.entity := by
  rcases Mark.of_renamed mark (e.renames_final a slot) with hkept | hdesired
  · exact hkept
  · by_contra hne
    refine h ⟨hdesired, fun s hs he => hne ?_⟩
    obtain rfl := Option.some.inj hs
    exact hdesired.trans he.symm

/-- What bears the mark of a desired entity that takes it comes to bear another one. -/
def Released (e : Enacting make live l removed acts) (mark : Mark) : Prop :=
  ∀ pair ∈ (matchUp (slots live) l).pairs, e.Takes mark pair → ∀ slot ∈ slots live,
    mark.of slot.entity = some (mark.desired pair.1) →
      ∃ a, (a, some slot) ∈ (matchUp (slots live) l).pairs ∧ e.Takes mark (a, some slot)

lemma nodup_iff_parts (e : Enacting make live l removed acts) (hnone : removed = []) (hl : Apart l)
    (hlive : (live.filterMap mark.of).Nodup) :
    (((acts.foldl Act.carryOut (track live)).map Tracked.entity).filterMap mark.of).Nodup ↔
      (∀ p ∈ (matchUp (slots live) l).pairs, ∀ q ∈ (matchUp (slots live) l).pairs, ∀ k,
          mark.of (e.final p) = some k → mark.of (e.final q) = some k → p = q) ∧
        ∀ p ∈ (matchUp (slots live) l).pairs, ∀ slot ∈ (matchUp (slots live) l).free, ∀ k,
          mark.of (e.final p) = some k → mark.of slot.entity ≠ some k := by
  have hpairs : (matchUp (slots live) l).pairs.Nodup := (pairs_fst_nodup hl.ids).of_map _
  have hfree : ((matchUp (slots live) l).free.filterMap fun slot => mark.of slot.entity).Nodup := by
    rw [← filterMap_slots] at hlive
    exact hlive.sublist ((matchUp_free_sublist _ _).filterMap _)
  rw [((e.final_perm hnone).filterMap mark.of).nodup_iff, List.filterMap_append, List.filterMap_map,
    List.filterMap_map, List.nodup_append, filterMap_nodup_iff hpairs]
  refine and_congr_right fun _ => ?_
  simp only [List.mem_filterMap, Function.comp_apply]
  constructor
  · rintro ⟨-, hdisjoint⟩ p hp slot hslot k hk hk'
    exact hdisjoint k ⟨p, hp, hk⟩ k ⟨slot, hslot, hk'⟩ rfl
  · intro hdisjoint
    refine ⟨hfree, ?_⟩
    rintro k ⟨p, hp, hk⟩ _ ⟨slot, hslot, hk'⟩ rfl
    exact hdisjoint p hp slot hslot k hk hk'

lemma released_of_nodup (e : Enacting make live l removed acts) (hnone : removed = [])
    (hl : Apart l) (hlive : (live.filterMap mark.of).Nodup)
    (h : (((acts.foldl Act.carryOut (track live)).map Tracked.entity).filterMap mark.of).Nodup) :
    e.Released mark := by
  obtain ⟨hpairs, hfree⟩ := (e.nodup_iff_parts hnone hl hlive).mp h
  intro pair hp htakes slot hslot hborne
  rcases List.mem_append.mp ((matchUp_perm (slots_distinct live) l).mem_iff.mpr hslot) with hm | hm
  · obtain ⟨⟨a, claim⟩, hclaim, hsome⟩ := List.mem_filterMap.mp hm
    obtain rfl : claim = some slot := hsome
    refine ⟨a, hclaim, ?_⟩
    by_contra hkeeps
    have hkept := (e.of_final_of_not_takes hkeeps).trans hborne
    obtain rfl := hpairs pair hp _ hclaim _ htakes.1 hkept
    exact hkeeps htakes
  · exact (hfree pair hp slot hm _ htakes.1 hborne).elim

lemma slot_of_not_takes (e : Enacting make live l removed acts)
    (hp : pair ∈ (matchUp (slots live) l).pairs) (h : ¬ e.Takes mark pair) :
    ∃ slot ∈ slots live, pair.2 = some slot ∧ mark.of (e.final pair) = mark.of slot.entity := by
  obtain ⟨a, claim⟩ := pair
  cases claim with
  | none => exact (h (e.takes_of_created mark a)).elim
  | some slot =>
    exact ⟨slot, mem_free_of_claim (slots_distinct live) hp rfl, rfl, e.of_final_of_not_takes h⟩

lemma Released.takes {e : Enacting make live l removed acts} (h : e.Released mark)
    {other : α × Option (Slot β)} (hp : pair ∈ (matchUp (slots live) l).pairs)
    (ho : other ∈ (matchUp (slots live) l).pairs) (htakes : e.Takes mark pair)
    (heq : mark.of (e.final other) = mark.of (e.final pair)) : e.Takes mark other := by
  by_contra hnot
  obtain ⟨slot, hslot, hclaim, hkept⟩ := e.slot_of_not_takes ho hnot
  obtain ⟨a, ha, htaken⟩ := h pair hp htakes slot hslot (hkept.symm.trans (heq.trans htakes.1))
  obtain rfl := claim_unique (slots_distinct live) ho ha hclaim rfl rfl
  exact hnot htaken

lemma nodup_of_released (e : Enacting make live l removed acts) (hnone : removed = [])
    (hl : Apart l) (hlive : (live.filterMap mark.of).Nodup) (h : e.Released mark) :
    (((acts.foldl Act.carryOut (track live)).map Tracked.entity).filterMap mark.of).Nodup := by
  have hdistinct := slots_distinct live
  have hslots : ∀ s ∈ slots live, ∀ t ∈ slots live, ∀ k, mark.of s.entity = some k →
      mark.of t.entity = some k → s = t := by
    rw [← filterMap_slots] at hlive
    exact fun s hs t ht k => eq_of_filterMap_nodup hlive hs ht
  refine (e.nodup_iff_parts hnone hl hlive).mpr ⟨?_, ?_⟩
  -- two final entities with one mark: both take it, or both have kept it
  · intro p hp q hq k hk hk'
    by_cases htakes : e.Takes mark p
    · have htakes' : e.Takes mark q := h.takes hp hq htakes (hk'.trans hk.symm)
      have hdesired : mark.desired p.1 = mark.desired q.1 :=
        Option.some.inj ((htakes.1.symm.trans hk).trans (hk'.symm.trans htakes'.1))
      exact List.inj_on_of_nodup_map (pairs_fst_nodup hl.ids) hp hq
        (hl.eq_of_desired (mem_of_pair hp) (mem_of_pair hq) hdesired)
    · have htakes' : ¬ e.Takes mark q := fun hq' =>
        htakes (h.takes hq hp hq' (hk.trans hk'.symm))
      obtain ⟨s, hs, hps, hkept⟩ := e.slot_of_not_takes hp htakes
      obtain ⟨t, ht, hqt, hkept'⟩ := e.slot_of_not_takes hq htakes'
      obtain rfl := hslots s hs t ht k (hkept.symm.trans hk) (hkept'.symm.trans hk')
      exact claim_unique hdistinct hp hq hps hqt rfl
  -- a final entity, and one that was left over
  · intro p hp f hf k hk hk'
    have hm := (matchUp_free_sublist (slots live) l).subset hf
    by_cases htakes : e.Takes mark p
    · obtain rfl := Option.some.inj (hk.symm.trans htakes.1)
      obtain ⟨a, ha, -⟩ := h p hp htakes f hm hk'
      exact claim_ne_free hdistinct ha rfl hf rfl
    · obtain ⟨s, hs, hps, hkept⟩ := e.slot_of_not_takes hp htakes
      obtain rfl := hslots s hs f hm k (hkept.symm.trans hk) hk'
      exact claim_ne_free hdistinct hp hps hf rfl

end Enacting

lemma nameChange_getD_eq_desired {compare : Bool} {desired live : String} :
    (nameChange compare desired live).getD live = desired ↔ compare = true ∨ live = desired := by
  by_cases h : live = desired
  · simp [nameChange, h]
  · cases compare <;> simp [nameChange, h, Ne.symm h]

/-- A desired entity comes to bear its name: it is created, or its name was set and is a new one. -/
def TakesName (set : α → Bool) : α × Option (Slot β) → Prop
  | (_, none) => True
  | (a, some slot) => set a = true ∧ Named.name slot.entity ≠ Desired.name a

/-- How far live entities are still told apart. -/
structure MarksAfter (set : α → Bool) (live : List β) (l : List α) (next : List β) : Prop where
  /-- By their ids, if what bears a desired id stands for the entity with this id. -/
  ids : (∀ a ∈ l, ∀ slot ∈ slots live, Named.id? slot.entity = some (Identified.id a) →
      (a, some slot) ∈ (matchUp (slots live) l).pairs) → (next.filterMap Named.id?).Nodup
  /-- By their names, exactly if whatever has a name that a desired entity takes gets a new one. -/
  names : (next.map Named.name).Nodup ↔
    ∀ pair ∈ (matchUp (slots live) l).pairs, TakesName set pair → ∀ slot ∈ slots live,
      Named.name slot.entity = Desired.name pair.1 →
        ∃ a, (a, some slot) ∈ (matchUp (slots live) l).pairs ∧ TakesName set (a, some slot)

namespace Enacting

variable {make : α → β} {live : List β} {l : List α} {removed : List (Slot β)} {acts : List (Act β)}
  {set : α → Bool}

lemma takes_name_iff (e : Enacting make live l removed acts)
    (hname : ∀ a slot, Named.name (e.final (a, some slot)) =
      (nameChange (set a) (Desired.name a) (Named.name slot.entity)).getD (Named.name slot.entity))
    (pair : α × Option (Slot β)) : e.Takes .name pair ↔ TakesName set pair := by
  obtain ⟨a, claim⟩ := pair
  cases claim with
  | none => exact iff_of_true (e.takes_of_created .name a) trivial
  | some slot =>
    simp only [Takes, Mark.of, Mark.desired, Option.some.injEq, ne_eq, Option.mem_def, forall_eq',
      hname, nameChange_getD_eq_desired, TakesName]
    tauto

lemma marksAfter (e : Enacting make live l removed acts) (hnone : removed = []) (hl : Apart l)
    (hids : (live.filterMap Named.id?).Nodup) (hnames : (live.map Named.name).Nodup)
    (hname : ∀ a slot, Named.name (e.final (a, some slot)) =
      (nameChange (set a) (Desired.name a) (Named.name slot.entity)).getD (Named.name slot.entity)) :
    MarksAfter set live l ((acts.foldl Act.carryOut (track live)).map Tracked.entity) where
  ids hmatched := by
    have hlive : (live.filterMap Mark.id.of).Nodup := hids
    refine e.nodup_of_released hnone hl hlive fun pair hp htakes slot hslot hid => ?_
    -- what bears the id of the entity stands for it, and so there is nothing to take
    have hclaim := hmatched pair.1 (mem_of_pair hp) slot hslot hid
    have hsame : pair.2 = some slot := claim_eq hl.ids hp hclaim
    exact (htakes.2 slot hsame hid).elim
  names := by
    have hmarks : ∀ m : List β, m.filterMap Mark.name.of = m.map Named.name := fun m => by
      rw [← List.filterMap_eq_map]
      rfl
    have hlive : (live.filterMap Mark.name.of).Nodup := by rwa [hmarks]
    have hreleased : e.Released .name ↔ ∀ pair ∈ (matchUp (slots live) l).pairs,
        TakesName set pair → ∀ slot ∈ slots live, Named.name slot.entity = Desired.name pair.1 →
          ∃ a, (a, some slot) ∈ (matchUp (slots live) l).pairs ∧ TakesName set (a, some slot) := by
      simp only [Released, e.takes_name_iff hname, Mark.of, Mark.desired, Option.some.injEq]
    rw [← hmarks, ← hreleased]
    exact ⟨e.released_of_nodup hnone hl hlive, e.nodup_of_released hnone hl hlive⟩

end Enacting

section Plans

variable {K : Type} [Scalar K] {mode : Mode} {deleteOrphans : Bool} {model : Model K} {live : Live K}

lemma name_final_bone (w : Writing K) (b : Model.Bone K) (slot : Slot (Live.Bone K)) :
    ((enactingBones w mode deleteOrphans model live).final (b, some slot)).name =
      (nameChange (mode.comparesAll || b.explicit.name) b.name slot.entity.name).getD
        slot.entity.name := by
  cases hstep : boneStep? model.bones mode.comparesAll (b, some slot) with
  | none =>
    rw [Enacting.final_of_idle _ (congrArg (·.bind w.boneAct?) hstep)]
    exact congrArg Live.Bone.name (settledBone_of_no_step hstep).symm
  | some s =>
    have hact := congrArg (·.bind w.boneAct?) hstep
    rw [boneStep?_update hstep] at hact
    rw [Enacting.final_of_overwrite _ hact]
    exact w.bone_name ..

lemma name_final_cube (w : Writing K) (c : Model.Cube K) (slot : Slot (Live.Cube K)) :
    ((enactingCubes w mode deleteOrphans model live).final (c, some slot)).name =
      (nameChange (mode.comparesAll || c.explicit.name) c.name slot.entity.name).getD
        slot.entity.name := by
  cases hstep : cubeStep? model.bones mode.comparesAll (c, some slot) with
  | none =>
    rw [Enacting.final_of_idle _ (congrArg (·.bind w.cubeAct?) hstep)]
    exact congrArg Live.Cube.name (settledCube_of_no_step hstep).symm
  | some s =>
    have hact := congrArg (·.bind w.cubeAct?) hstep
    rw [cubeStep?_update hstep] at hact
    rw [Enacting.final_of_overwrite _ hact]
    exact w.cube_name ..

/-- After a merge or a patch live entities are told apart by their ids, unless a desired id is borne
by something that stands for another entity. By their names they are told apart exactly if each name
that a desired entity takes is given up by whatever has it, which stands for a desired entity whose
name was set. -/
theorem merge_marks {limits : Limits} {spec : Spec K} {plan : Plan K} (w : Writing K)
    (hmodel : Model.ofSpec limits spec = .ok model)
    (hboneIds : (live.bones.filterMap Live.Bone.id).Nodup)
    (hboneNames : (live.bones.map Live.Bone.name).Nodup)
    (hcubeIds : (live.cubes.filterMap Live.Cube.id).Nodup)
    (hcubeNames : (live.cubes.map Live.Cube.name).Nodup) (hmode : mode ≠ .replace)
    (hplan : ofModel mode deleteOrphans model live = .ok plan) :
    (sequence mode deleteOrphans model live).map Step.op = plan.ops ∧
      MarksAfter (fun b : Model.Bone K => b.explicit.name) live.bones model.bones.toList
        ((w.successor mode deleteOrphans model live).bones.map Tracked.entity) ∧
      MarksAfter (fun c : Model.Cube K => c.explicit.name) live.cubes model.cubes.toList
        ((w.successor mode deleteOrphans model live).cubes.map Tracked.entity) := by
  have hcompare : mode.comparesAll = false := decide_eq_false hmode
  have hbones : Apart model.bones.toList := ⟨model.bones.nodup, (Model.sound_bones hmodel).names⟩
  have hcubes : Apart model.cubes.toList := ⟨model.cubes.nodup, (Model.sound_cubes hmodel).names⟩
  obtain ⟨-, -, rfl⟩ := ofModel_ok.mp hplan
  refine ⟨sequence_map_op .., ?_, ?_⟩
  · have hnone : deletedBones mode deleteOrphans model live = [] := if_neg fun h => hmode h.1
    refine (enactingBones w mode deleteOrphans model live).marksAfter hnone hbones hboneIds
      hboneNames fun b slot => (name_final_bone w b slot).trans ?_
    rw [hcompare, Bool.false_or]
    rfl
  · have hnone : deletedCubes mode deleteOrphans model live = [] := if_neg fun h => hmode h.1
    refine (enactingCubes w mode deleteOrphans model live).marksAfter hnone hcubes hcubeIds
      hcubeNames fun c slot => (name_final_cube w c slot).trans ?_
    rw [hcompare, Bool.false_or]
    rfl

end Plans

def legSpec : Spec Float where
  bones := [{ id := some "arm" }, { id := some "leg", name := some "limb" }]
  policy := { enforceRoot := false }

def legLive : Live Float where
  bones := [{ Live.Bone.named "limb" with id := some "arm" }]

/-- The leg is created with the name of the arm, which keeps it. -/
theorem names_clash : ∃ model plan, Model.ofSpec .standard legSpec = .ok model ∧
    (legLive.bones.filterMap Live.Bone.id).Nodup ∧ (legLive.bones.map Live.Bone.name).Nodup ∧
      (legLive.cubes.filterMap Live.Cube.id).Nodup ∧ (legLive.cubes.map Live.Cube.name).Nodup ∧
        ofModel .merge false model legLive = .ok plan ∧
          (sequence .merge false model legLive).map Step.op = plan.ops ∧
            ¬ (((Writing.all.successor .merge false model legLive).bones.map Tracked.entity).map
              Live.Bone.name).Nodup := by
  obtain ⟨model, hm⟩ : ∃ model, Model.ofSpec .standard legSpec = .ok model :=
    Attempts.exists_ok (by decide +kernel)
  have hclash : ¬ (((Writing.all.successor .merge false model legLive).bones.map
      Tracked.entity).map Live.Bone.name).Nodup := by
    apply Attempts.holds_of_all hm
    decide +kernel
  exact ⟨model, _, hm, by decide, by decide, by decide, by decide, ofModel_ok.mpr ⟨rfl, rfl, rfl⟩,
    sequence_map_op .., hclash⟩

theorem merge_marks_leg : ∃ model plan, Model.ofSpec .standard legSpec = .ok model ∧
    (legLive.bones.filterMap Live.Bone.id).Nodup ∧ (legLive.bones.map Live.Bone.name).Nodup ∧
      (legLive.cubes.filterMap Live.Cube.id).Nodup ∧ (legLive.cubes.map Live.Cube.name).Nodup ∧
        ofModel .merge false model legLive = .ok plan ∧
          (sequence .merge false model legLive).map Step.op = plan.ops ∧
            MarksAfter (fun b : Model.Bone Float => b.explicit.name) legLive.bones
                model.bones.toList ((Writing.marks.successor .merge false model legLive).bones.map
                  Tracked.entity) ∧
              MarksAfter (fun c : Model.Cube Float => c.explicit.name) legLive.cubes
                model.cubes.toList ((Writing.marks.successor .merge false model legLive).cubes.map
                  Tracked.entity) := by
  obtain ⟨model, hm⟩ : ∃ model, Model.ofSpec .standard legSpec = .ok model :=
    Attempts.exists_ok (by decide +kernel)
  obtain ⟨plan, hplan⟩ : ∃ plan, ofModel .merge false model legLive = .ok plan :=
    ⟨_, ofModel_ok.mpr ⟨rfl, rfl, rfl⟩⟩
  have hboneIds : (legLive.bones.filterMap Live.Bone.id).Nodup := by decide
  have hboneNames : (legLive.bones.map Live.Bone.name).Nodup := by decide
  have hcubeIds : (legLive.cubes.filterMap Live.Cube.id).Nodup := by decide
  have hcubeNames : (legLive.cubes.map Live.Cube.name).Nodup := by decide
  exact ⟨model, plan, hm, hboneIds, hboneNames, hcubeIds, hcubeNames, hplan,
    merge_marks .marks hm hboneIds hboneNames hcubeIds hcubeNames (by decide) hplan⟩

end Armature.Plan
