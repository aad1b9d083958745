import Armature.Proofs.Sequencing

/-! What an empty plan says, when everything is compared: each desired entity has been found, and
agrees with what was found. Only of its parent no more can be said than that the reference is the id
or the name of the desired parent, and such a name may be the id of another bone. -/

namespace Armature

section Distances

variable {K : Type} [Scalar K]

/-- The two are not further apart than a ten-thousandth. -/
def Scalar.Close (a b : K) : Prop := le (abs (a - b)) (ofDecimal 1 4) = true

def Vec3.Close (a b : Vec3 K) : Prop := ∀ axis, Scalar.Close (a.get axis) (b.get axis)

def Vec2.Close (a b : Vec2 K) : Prop := Scalar.Close a.u b.u ∧ Scalar.Close a.v b.v

lemma Scalar.near_iff {a b : K} : near a b = true ↔ Close a b := Iff.rfl

lemma Vec3.near_iff {a b : Vec3 K} : a.near b = true ↔ a.Close b := by
  rw [near, forall₂, Bool.and_eq_true, Bool.and_eq_true]
  constructor
  · rintro ⟨⟨hx, hy⟩, hz⟩ axis
    cases axis
    exacts [hx, hy, hz]
  · exact fun h => ⟨⟨h .x, h .y⟩, h .z⟩

lemma Vec2.near_iff {a b : Vec2 K} : a.near b = true ↔ a.Close b := by
  rw [near, Bool.and_eq_true, Scalar.near_iff, Scalar.near_iff, Close]

end Distances

namespace Plan

section Comparisons

variable {K : Type}

lemma idChange_eq_none_iff {desired : String} {live : Option String} :
    idChange true desired live = none ↔ live = some desired ∨ live = none := by
  cases live <;> simp [idChange]

lemma nameChange_eq_none_iff {desired live : String} :
    nameChange true desired live = none ↔ live = desired := by
  simp only [nameChange, Bool.true_and, bne_iff_ne, ite_eq_right_iff, reduceCtorEq, imp_false,
    not_not]
  exact eq_comm

lemma switchChange_eq_none_iff {desired : Option Bool} {live : Bool} :
    switchChange true desired live = none ↔ ∀ value ∈ desired, live = value := by
  simp only [switchChange, Option.filter_eq_none_iff, Bool.true_and, bne_iff_ne, not_not]
  exact forall₂_congr fun value _ => eq_comm

lemma vectorChange_eq_none_iff [Scalar K] {desired live : Vec3 K} :
    vectorChange true desired live = none ↔ desired.Close live := by
  simp [vectorChange, Vec3.near_iff]

lemma parentMatches_iff {bones : Model.Bones K} {desired : String} {live : Option String} :
    parentMatches bones desired live = true ↔ ∃ reference, live = some reference ∧
      (reference = desired ∨ ∃ bone, bones.get? desired = some bone ∧ bone.name = reference) := by
  cases live with
  | none => simp [parentMatches]
  | some reference => simp [parentMatches, Option.any_eq_true]

end Comparisons

variable {K : Type} [Scalar K]

structure BoneAgrees (b : Model.Bone K) (live : Live.Bone K) : Prop where
  id : live.id = some b.id ∨ live.id = none
  name : live.name = b.name
  pivot : b.pivot.Close live.pivot
  rotation : b.rotation.Close live.rotation
  scale : b.scale.Close live.scale
  visibility : ∀ value ∈ b.visibility, live.visibility.getD true = value
  top : live.parent = none ↔ b.parent = none

structure CubeAgrees (c : Model.Cube K) (live : Live.Cube K) : Prop where
  id : live.id = some c.id ∨ live.id = none
  name : live.name = c.name
  lower : c.lower.Close live.lower
  upper : c.upper.Close live.upper
  /-- A live cube without an origin has it at the center of its box. -/
  origin : c.origin.Close (live.origin.getD (Vec3.center live.lower live.upper))
  rotation : c.rotation.Close live.rotation
  inflate : ∀ value ∈ c.inflate, Scalar.Close value (live.inflate.getD Scalar.zero)
  mirror : ∀ value ∈ c.mirror, live.mirror.getD false = value
  visibility : ∀ value ∈ c.visibility, live.visibility.getD true = value
  boxUv : ∀ value ∈ c.boxUv, live.boxUv.getD false = value
  uvOffset : ∀ value ∈ c.uvOffset, value.Close (live.uvOffset.getD .zero)

section Idle

variable {bones : Model.Bones K}

lemma boneAgrees_of_idle {b : Model.Bone K} {slot : Slot (Live.Bone K)}
    (h : boneOp? bones true (b, some slot) = none) :
    BoneAgrees b slot.entity ∧
      ∀ parent ∈ b.parent, parentMatches bones parent slot.entity.parent = true := by
  have hidle : (diffBone bones true b slot.entity).1.isEmpty = true ∧
      (diffBone bones true b slot.entity).2 = false := by
    by_contra hchanged
    simp [boneOp?, hchanged] at h
  simp only [diffBone, BoneChanges.isEmpty, Bool.true_or, Bool.true_and, Bool.and_eq_true,
    Option.isNone_iff_eq_none, idChange_eq_none_iff, nameChange_eq_none_iff,
    vectorChange_eq_none_iff, switchChange_eq_none_iff, Option.filter_eq_none_iff,
    Bool.not_eq_true', Bool.not_eq_false] at hidle
  obtain ⟨⟨⟨⟨⟨⟨⟨hid, hname⟩, hparent⟩, hpivot⟩, hrotation⟩, hscale⟩, hvisibility⟩, htop⟩ := hidle
  refine ⟨⟨hid, hname, hpivot, hrotation, hscale, hvisibility, ?_⟩, hparent⟩
  cases hb : b.parent with
  | none =>
    rw [hb] at htop
    simpa using htop
  | some parent =>
    obtain ⟨reference, href, -⟩ := parentMatches_iff.mp (hparent parent hb)
    simp [href]

lemma cubeAgrees_of_idle {c : Model.Cube K} {slot : Slot (Live.Cube K)}
    (h : cubeOp? bones true (c, some slot) = none) :
    CubeAgrees c slot.entity ∧ parentMatches bones c.parent slot.entity.parent = true := by
  have hidle : (diffCube bones true c slot.entity).1.isEmpty = true := by
    by_contra hchanged
    simp [cubeOp?, hchanged] at h
  simp only [diffCube, CubeChanges.isEmpty, Bool.true_or, Bool.true_and, Bool.and_eq_true,
    Option.isNone_iff_eq_none, idChange_eq_none_iff, nameChange_eq_none_iff,
    vectorChange_eq_none_iff, switchChange_eq_none_iff, Option.filter_eq_none_iff,
    ite_eq_right_iff, reduceCtorEq, imp_false, Bool.not_eq_true', Bool.not_eq_false,
    Scalar.near_iff, Vec2.near_iff, Vec3.near_iff] at hidle
  obtain ⟨⟨⟨⟨⟨⟨⟨⟨⟨⟨⟨hid, hname⟩, hparent⟩, hbox⟩, -⟩, horigin⟩, hrotation⟩, hinflate⟩, hmirror⟩,
    hvisibility⟩, hboxUv⟩, huvOffset⟩ := hidle
  exact ⟨⟨hid, hname, hbox.1, hbox.2, horigin, hrotation, hinflate, hmirror, hvisibility, hboxUv,
    huvOffset⟩, hparent⟩

end Idle

/-- Every desired entity has claimed a live one of its own, which agrees with it. -/
structure AllClaimed {α β : Type} [Desired α] [Named β] (live : List β) (l : List α)
    (agrees : α → β → Prop) : Prop where
  claimed : ∀ a ∈ l, ∃ slot ∈ slots live,
    (a, some slot) ∈ (matchUp (slots live) l).pairs ∧ agrees a slot.entity
  unshared : ∀ a b s t, (a, some s) ∈ (matchUp (slots live) l).pairs →
    (b, some t) ∈ (matchUp (slots live) l).pairs → s.index = t.index → a = b

lemma allClaimed_of_pairs {α β : Type} [Desired α] [Named β] {live : List β} {l : List α}
    {agrees : α → β → Prop}
    (h : ∀ pair ∈ (matchUp (slots live) l).pairs, ∃ slot, pair.2 = some slot ∧
      agrees pair.1 slot.entity) : AllClaimed live l agrees := by
  have hdistinct := slots_distinct live
  constructor
  · intro a ha
    rw [← matchUp_pairs_fst (slots live) l] at ha
    obtain ⟨⟨a, claim⟩, hp, rfl⟩ := List.mem_map.mp ha
    obtain ⟨slot, hslot, hagrees⟩ := h _ hp
    obtain rfl : claim = some slot := hslot
    exact ⟨slot, mem_free_of_claim hdistinct hp rfl, hp, hagrees⟩
  · intro a b s t hs ht hindex
    exact congrArg Prod.fst (claim_unique hdistinct hs ht rfl rfl hindex)

/-- What a live parent reference says when the desired parent has been found: it is the id or the name
of the desired parent, and names what was found as long as no other bone has that name for its id. -/
def RefersTo (model : Model K) (live : Live K) (parent : String) (reference? : Option String) :
    Prop :=
  ∃ b slot reference, (b, some slot) ∈ (boneMatching model live).pairs ∧ b.id = parent ∧
    reference? = some reference ∧ (reference = b.id ∨ reference = b.name) ∧
      (resolve? live.bones reference = some slot.index ↔ slot.entity.id = some reference ∨
        reference = b.name ∧ ∀ other ∈ live.bones, other.id ≠ some reference)

section Plans

variable {deleteOrphans : Bool} {model : Model K} {live : Live K}

lemma idle_of_empty (h : opsFor .replace deleteOrphans model live = []) :
    (∀ pair ∈ (boneMatching model live).pairs, boneOp? model.bones true pair = none) ∧
      ∀ pair ∈ (cubeMatching model live).pairs, cubeOp? model.bones true pair = none := by
  rw [← sequence_map_op, List.map_eq_nil_iff] at h
  have hemitted : emitted .replace deleteOrphans model live = [] := by
    rw [← List.perm_nil, ← h]
    exact sequence_perm.symm
  rw [emitted, List.append_eq_nil_iff, List.append_eq_nil_iff, List.filterMap_eq_nil_iff,
    List.filterMap_eq_nil_iff] at hemitted
  obtain ⟨⟨hbones, hcubes⟩, -⟩ := hemitted
  constructor
  · intro pair hp
    exact Option.map_eq_none_iff.mp (hbones pair hp)
  · intro pair hp
    exact Option.map_eq_none_iff.mp (hcubes pair hp)

lemma claim_of_idle_bone {b : Model.Bone K} {claim : Option (Slot (Live.Bone K))}
    (h : boneOp? model.bones true (b, claim) = none) : ∃ slot, claim = some slot := by
  cases claim with
  | none => cases h
  | some slot => exact ⟨slot, rfl⟩

lemma claim_of_idle_cube {c : Model.Cube K} {claim : Option (Slot (Live.Cube K))}
    (h : cubeOp? model.bones true (c, claim) = none) : ∃ slot, claim = some slot := by
  cases claim with
  | none => cases h
  | some slot => exact ⟨slot, rfl⟩

lemma refersTo_of_matches (hids : (live.bones.filterMap Live.Bone.id).Nodup)
    (hnames : (live.bones.map Live.Bone.name).Nodup)
    (hidle : ∀ pair ∈ (boneMatching model live).pairs, boneOp? model.bones true pair = none)
    {parent : String} {reference? : Option String} (hparent : parent ∈ model.bones.ids)
    (h : parentMatches model.bones parent reference? = true) :
    RefersTo model live parent reference? := by
  obtain ⟨b, hb, rfl⟩ := Roster.mem_ids.mp hparent
  rw [← matchUp_pairs_fst (slots live.bones) model.bones.toList] at hb
  obtain ⟨⟨b, claim⟩, hp, rfl⟩ := List.mem_map.mp hb
  obtain ⟨slot, rfl⟩ := claim_of_idle_bone (hidle _ hp)
  obtain ⟨reference, href, hmatch⟩ := parentMatches_iff.mp h
  have hslot := mem_slots.mp (mem_free_of_claim (slots_distinct live.bones) hp rfl)
  have hname : slot.entity.name = b.name := (boneAgrees_of_idle (hidle _ hp)).1.name
  refine ⟨b, slot, reference, hp, rfl, href, ?_, ?_⟩
  · rcases hmatch with hid | ⟨found, hfound, rfl⟩
    · exact .inl hid
    · have hget : model.bones.get? (Identified.id b) = some b :=
        Roster.get?_eq_some.mpr ⟨mem_of_pair hp, rfl⟩
      obtain rfl : found = b := Option.some.inj (hfound.symm.trans hget)
      exact .inr rfl
  · rw [resolve?_eq_some_iff hids hnames hslot, hname, eq_comm (a := b.name)]

/-- A plan that leaves nothing to do in `replace` mode has found everything, and the same all over,
up to what the parent references mean. -/
theorem ofModel_empty {limits : Limits} {spec : Spec K} {plan : Plan K}
    (hmodel : Model.ofSpec limits spec = .ok model)
    (hids : (live.bones.filterMap Live.Bone.id).Nodup)
    (hnames : (live.bones.map Live.Bone.name).Nodup)
    (hplan : ofModel .replace deleteOrphans model live = .ok plan) (hempty : plan.ops = []) :
    AllClaimed live.bones model.bones.toList (fun b bone => BoneAgrees b bone ∧
        ∀ parent ∈ b.parent, RefersTo model live parent bone.parent) ∧
      AllClaimed live.cubes model.cubes.toList fun c cube => CubeAgrees c cube ∧
        RefersTo model live c.parent cube.parent := by
  obtain ⟨-, -, rfl⟩ := ofModel_ok.mp hplan
  obtain ⟨idleBones, idleCubes⟩ := idle_of_empty hempty
  constructor
  · apply allClaimed_of_pairs
    rintro ⟨b, claim⟩ hp
    obtain ⟨slot, rfl⟩ := claim_of_idle_bone (idleBones _ hp)
    obtain ⟨hagrees, hparent⟩ := boneAgrees_of_idle (idleBones _ hp)
    refine ⟨slot, rfl, hagrees, fun parent hm => ?_⟩
    have hknown := (Model.sound_bones hmodel).parents b (mem_of_pair hp) parent hm
    exact refersTo_of_matches hids hnames idleBones hknown (hparent parent hm)
  · apply allClaimed_of_pairs
    rintro ⟨c, claim⟩ hp
    obtain ⟨slot, rfl⟩ := claim_of_idle_cube (idleCubes _ hp)
    obtain ⟨hagrees, hparent⟩ := cubeAgrees_of_idle (idleCubes _ hp)
    have hknown := (Model.sound_cubes hmodel).parents c (mem_of_pair hp)
    exact ⟨slot, rfl, hagrees, refersTo_of_matches hids hnames idleBones hknown hparent⟩

end Plans

def limbSpec : Spec Float where
  bones := [{ id := some "arm", name := some "limb" }, { id := some "limb", name := some "leg" },
    { id := some "hand", parent := some "arm" }]
  policy := { enforceRoot := false }

def limbLive : Live Float where
  bones := [{ Live.Bone.named "limb" with id := some "arm" },
    { Live.Bone.named "leg" with id := some "limb" },
    { Live.Bone.named "hand" with id := some "hand", parent := some "limb" }]

lemma limbs_idle : ∃ model, Model.ofSpec .standard limbSpec = .ok model ∧
    opsFor .replace true model limbLive = [] ∧
      ∃ parent ∈ (boneMatching model limbLive).pairs, ∃ child ∈ (boneMatching model limbLive).pairs,
        child.1.parent = some parent.1.id ∧
          parent.2.map Slot.index ≠
            (child.2.bind (·.entity.parent)).bind (resolve? limbLive.bones) := by
  obtain ⟨model, hm⟩ : ∃ model, Model.ofSpec .standard limbSpec = .ok model :=
    Attempts.exists_ok (by decide +kernel)
  have hempty : (opsFor .replace true model limbLive).isEmpty = true := by
    apply Attempts.holds_of_all hm
    decide +kernel
  have hparent : ∃ parent ∈ (boneMatching model limbLive).pairs,
      ∃ child ∈ (boneMatching model limbLive).pairs, child.1.parent = some parent.1.id ∧
        parent.2.map Slot.index ≠
          (child.2.bind (·.entity.parent)).bind (resolve? limbLive.bones) := by
    apply Attempts.holds_of_all hm
    decide +kernel
  exact ⟨model, hm, List.isEmpty_iff.mp hempty, hparent⟩

/-- The hand hangs from the leg, whose id is the name of the arm, and nothing is to be done. -/
theorem parent_mistaken : ∃ model plan, Model.ofSpec .standard limbSpec = .ok model ∧
    ofModel .replace true model limbLive = .ok plan ∧ plan.ops = [] ∧
      (limbLive.bones.filterMap Live.Bone.id).Nodup ∧
      (limbLive.bones.map Live.Bone.name).Nodup ∧
      (limbLive.cubes.filterMap Live.Cube.id).Nodup ∧
      (limbLive.cubes.map Live.Cube.name).Nodup ∧
      (∀ bone ∈ limbLive.bones, ∀ r ∈ bone.parent, (resolve? limbLive.bones r).isSome) ∧
      (∀ cube ∈ limbLive.cubes, ∀ r ∈ cube.parent, (resolve? limbLive.bones r).isSome) ∧
      ∃ parent ∈ (boneMatching model limbLive).pairs, ∃ child ∈ (boneMatching model limbLive).pairs,
        child.1.parent = some parent.1.id ∧
          parent.2.map Slot.index ≠
            (child.2.bind (·.entity.parent)).bind (resolve? limbLive.bones) := by
  obtain ⟨model, hm, hempty, hparent⟩ := limbs_idle
  exact ⟨model, _, hm, ofModel_ok.mpr ⟨rfl, rfl, rfl⟩, hempty, by decide, by decide, by decide,
    by decide, by decide, by decide, hparent⟩

theorem ofModel_empty_limbs : ∃ model plan, Model.ofSpec .standard limbSpec = .ok model ∧
    (limbLive.bones.filterMap Live.Bone.id).Nodup ∧ (limbLive.bones.map Live.Bone.name).Nodup ∧
      ofModel .replace true model limbLive = .ok plan ∧ plan.ops = [] ∧
        AllClaimed limbLive.bones model.bones.toList (fun b bone => BoneAgrees b bone ∧
          ∀ parent ∈ b.parent, RefersTo model limbLive parent bone.parent) ∧
        AllClaimed limbLive.cubes model.cubes.toList fun c cube => CubeAgrees c cube ∧
          RefersTo model limbLive c.parent cube.parent := by
  obtain ⟨model, hm, hempty, -⟩ := limbs_idle
  obtain ⟨plan, hplan, hops⟩ : ∃ plan, ofModel .replace true model limbLive = .ok plan ∧
      plan.ops = [] := ⟨_, ofModel_ok.mpr ⟨rfl, rfl, rfl⟩, hempty⟩
  have hids : (limbLive.bones.filterMap Live.Bone.id).Nodup := by decide
  have hnames : (limbLive.bones.map Live.Bone.name).Nodup := by decide
  exact ⟨model, plan, hm, hids, hnames, hplan, hops, ofModel_empty hm hids hnames hplan hops⟩

end Plan

end Armature
