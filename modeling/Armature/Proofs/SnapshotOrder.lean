import Armature.Proofs.LiveMarks

/-! The order of a snapshot. Where live entities are told apart by their ids and by their names, each
desired one finds the same entity wherever it stands, and so only the order of the deletions depends
on that of the snapshot. -/

namespace Armature.Plan

lemma find?_perm {γ : Type} {p : γ → Bool} {l l' : List γ} (h : l.Perm l')
    (hone : ∀ c ∈ l, ∀ d ∈ l, p c = true → p d = true → c = d) : l.find? p = l'.find? p := by
  cases hc : l.find? p with
  | none =>
    have hnone := List.find?_eq_none.mp hc
    exact (List.find?_eq_none.mpr fun d hd => hnone d (h.mem_iff.mpr hd)).symm
  | some c =>
    have hcl := List.mem_of_find?_eq_some hc
    have hpc := List.find?_some hc
    obtain ⟨d, hd⟩ := Option.isSome_iff_exists.mp
      (List.find?_isSome.mpr ⟨c, h.mem_iff.mp hcl, hpc⟩)
    have hdl := h.mem_iff.mpr (List.mem_of_find?_eq_some hd)
    rw [hd, hone c hcl d hdl hpc (List.find?_some hd)]

section Matchings

variable {α β : Type}

def Slot.unplaced (slot : Slot β) : Slot β := ⟨0, slot.entity⟩

def unplacedClaim (pair : α × Option (Slot β)) : α × Option (Slot β) :=
  (pair.1, pair.2.map Slot.unplaced)

lemma slots_map_unplaced (live : List β) :
    (slots live).map Slot.unplaced = live.map fun b => ⟨0, b⟩ := by
  conv_rhs => rw [← slots_map_entity live, List.map_map]
  rfl

/-- The same entities are free, whatever their positions. -/
structure Shuffled (free free' : List (Slot β)) : Prop where
  distinct : Distinct free
  distinct' : Distinct free'
  perm : (free.map Slot.unplaced).Perm (free'.map Slot.unplaced)

lemma Shuffled.remaining {free free' : List (Slot β)} (h : Shuffled free free')
    {claim claim' : Option (Slot β)} (hclaim : ∀ slot ∈ claim, slot ∈ free)
    (hclaim' : ∀ slot ∈ claim', slot ∈ free')
    (hsame : claim.map Slot.unplaced = claim'.map Slot.unplaced) :
    Shuffled (remaining free claim) (remaining free' claim') := by
  cases claim with
  | none =>
    cases claim' with
    | none => exact h
    | some slot' => cases hsame
  | some slot =>
    cases claim' with
    | none => cases hsame
    | some slot' =>
      refine ⟨h.distinct.filter _, h.distinct'.filter _, ?_⟩
      have hperm := (h.distinct.cons_filter_perm (hclaim slot rfl)).map Slot.unplaced
      have hperm' := (h.distinct'.cons_filter_perm (hclaim' slot' rfl)).map Slot.unplaced
      rw [List.map_cons] at hperm hperm'
      rw [← Option.some.inj hsame] at hperm'
      exact ((hperm.trans h.perm).trans hperm'.symm).cons_inv

variable [Desired α] [Named β]

def ToldApart (free : List (Slot β)) : Prop :=
  ∀ mark : Mark, (free.filterMap fun slot => mark.of slot.entity).Nodup

lemma toldApart_slots {live : List β} (hids : (live.filterMap Named.id?).Nodup)
    (hnames : (live.map Named.name).Nodup) : ToldApart (slots live) := by
  intro mark
  rw [filterMap_slots]
  cases mark with
  | id => exact hids
  | name =>
    rw [← List.filterMap_eq_map] at hnames
    exact hnames

lemma ToldApart.sublist {free free' : List (Slot β)} (h : ToldApart free)
    (hsub : free'.Sublist free) : ToldApart free' := fun mark =>
  (h mark).sublist (hsub.filterMap _)

lemma find?_shuffled {free free' : List (Slot β)} (h : Shuffled free free') (htold : ToldApart free)
    (mark : Mark) (a : α) :
    (free.find? fun slot => mark.fits slot.entity a).map Slot.unplaced =
      (free'.find? fun slot => mark.fits slot.entity a).map Slot.unplaced := by
  have hfind : ∀ l : List (Slot β), (l.find? fun slot => mark.fits slot.entity a).map Slot.unplaced =
      (l.map Slot.unplaced).find? fun slot => mark.fits slot.entity a := by
    intro l
    rw [List.find?_map]
    rfl
  rw [hfind, hfind]
  refine find?_perm h.perm fun s hs t ht hfits hfits' => ?_
  obtain ⟨s, hs', rfl⟩ := List.mem_map.mp hs
  obtain ⟨t, ht', rfl⟩ := List.mem_map.mp ht
  rw [eq_of_filterMap_nodup (htold mark) hs' ht' (Mark.fits_iff.mp hfits) (Mark.fits_iff.mp hfits')]

lemma claim?_shuffled {free free' : List (Slot β)} (h : Shuffled free free') (htold : ToldApart free)
    (a : α) : (claim? a free).map Slot.unplaced = (claim? a free').map Slot.unplaced := by
  have hid := find?_shuffled h htold .id a
  have hname := find?_shuffled h htold .name a
  rw [claim?_eq, claim?_eq]
  cases hfound : free.find? fun slot => Mark.id.fits slot.entity a with
  | none =>
    rw [hfound, Option.map_none, eq_comm, Option.map_eq_none_iff] at hid
    rw [hid]
    exact hname
  | some slot =>
    rw [hfound, Option.map_some, eq_comm, Option.map_eq_some_iff] at hid
    obtain ⟨slot', hslot', hsame⟩ := hid
    rw [hslot']
    exact congrArg some hsame.symm

/-- Two matchings find the same entities for the desired ones, and leave the same ones free. -/
structure SameMatching (m m' : Matching α β) : Prop where
  pairs : m.pairs.map unplacedClaim = m'.pairs.map unplacedClaim
  free : (m.free.map Slot.unplaced).Perm (m'.free.map Slot.unplaced)

lemma matchUp_shuffled {free free' : List (Slot β)} (h : Shuffled free free')
    (htold : ToldApart free) (l : List α) : SameMatching (matchUp free l) (matchUp free' l) := by
  induction l generalizing free free' with
  | nil => exact ⟨rfl, h.perm⟩
  | cons a l ih =>
    have hclaim := claim?_shuffled h htold a
    have hrest := h.remaining (fun _ hs => (claim?_spec hs).1) (fun _ hs => (claim?_spec hs).1) hclaim
    obtain ⟨hpairs, hfree⟩ := ih hrest (htold.sublist (remaining_sublist free (claim? a free)))
    constructor
    · rw [matchUp_cons, matchUp_cons, List.map_cons, List.map_cons, hpairs, unplacedClaim,
        unplacedClaim, hclaim]
    · rwa [matchUp_cons_free, matchUp_cons_free]

lemma matchUp_perm_live {live live' : List β} (h : live.Perm live')
    (hids : (live.filterMap Named.id?).Nodup) (hnames : (live.map Named.name).Nodup) (l : List α) :
    SameMatching (matchUp (slots live) l) (matchUp (slots live') l) := by
  refine matchUp_shuffled ⟨slots_distinct live, slots_distinct live', ?_⟩
    (toldApart_slots hids hnames) l
  rw [slots_map_unplaced, slots_map_unplaced]
  exact h.map _

namespace SameMatching

variable {m m' : Matching α β}

omit [Desired α] [Named β] in
lemma find?_eq (h : SameMatching m m') (p : α × Option (Slot β) → Bool)
    (hp : ∀ pair, p (unplacedClaim pair) = p pair) :
    (m.pairs.find? p).map unplacedClaim = (m'.pairs.find? p).map unplacedClaim := by
  have hfind : ∀ pairs : List (α × Option (Slot β)), (pairs.find? p).map unplacedClaim =
      (pairs.map unplacedClaim).find? p := by
    intro pairs
    rw [List.find?_map]
    congr 2
    funext pair
    exact (hp pair).symm
  rw [hfind, hfind, h.pairs]

omit [Named β] in
lemma check_eq {K : Type} (h : SameMatching m m') (mode : Mode) (kind : Kind) :
    Mode.check (K := K) mode kind m = Mode.check mode kind m' := by
  have hsome := h.find?_eq (·.2.isSome) fun pair => by simp [unplacedClaim]
  have hnone := h.find?_eq (·.2.isNone) fun pair => by simp [unplacedClaim]
  cases mode with
  | create =>
    have hcheck : ∀ m : Matching α β, Mode.check (K := K) .create kind m =
        ((m.pairs.find? (·.2.isSome)).map unplacedClaim).elim (.ok ())
          fun pair => .error (.alreadyExists kind (Identified.id pair.1)) := by
      intro m
      rw [Mode.check]
      cases m.pairs.find? (·.2.isSome) <;> rfl
    rw [hcheck, hcheck, hsome]
  | patch =>
    have hcheck : ∀ m : Matching α β, Mode.check (K := K) .patch kind m =
        ((m.pairs.find? (·.2.isNone)).map unplacedClaim).elim (.ok ())
          fun pair => .error (.notFound kind (Identified.id pair.1)) := by
      intro m
      rw [Mode.check]
      cases m.pairs.find? (·.2.isNone) <;> rfl
    rw [hcheck, hcheck, hnone]
  | merge | replace => rfl

lemma orphans_perm (h : SameMatching m m') (l : List α) :
    ((m.orphans l).map Slot.unplaced).Perm ((m'.orphans l).map Slot.unplaced) := by
  have horphans : ∀ m : Matching α β, (m.orphans l).map Slot.unplaced =
      (m.free.map Slot.unplaced).filter fun slot => isOrphan l slot.entity := by
    intro m
    rw [List.filter_map]
    rfl
  rw [horphans, horphans]
  exact h.free.filter _

end SameMatching

end Matchings

section Operations

variable {K : Type} [Scalar K] {bones : Model.Bones K} {all : Bool}

lemma boneOp?_unplaced (pair : Model.Bone K × Option (Slot (Live.Bone K))) :
    boneOp? bones all (unplacedClaim pair) = boneOp? bones all pair := by
  obtain ⟨bone, claim⟩ := pair
  cases claim <;> rfl

lemma cubeOp?_unplaced (pair : Model.Cube K × Option (Slot (Live.Cube K))) :
    cubeOp? bones all (unplacedClaim pair) = cubeOp? bones all pair := by
  obtain ⟨cube, claim⟩ := pair
  cases claim <;> rfl

lemma boneOps_eq {m m' : Matching (Model.Bone K) (Live.Bone K)} (h : SameMatching m m') :
    boneOps bones all m = boneOps bones all m' := by
  have hop : ∀ claim : Option (Model.Bone K × Option (Slot (Live.Bone K))),
      claim.bind (boneOp? bones all) = (claim.map unplacedClaim).bind (boneOp? bones all) := by
    intro claim
    rw [Option.bind_map]
    congr 1
    funext pair
    exact (boneOp?_unplaced pair).symm
  rw [boneOps, boneOps]
  congr 1
  funext id
  rw [hop, h.find?_eq _ fun _ => rfl, ← hop]

lemma cubeOps_eq {m m' : Matching (Model.Cube K) (Live.Cube K)} (h : SameMatching m m') :
    cubeOps bones all m = cubeOps bones all m' := by
  have hops : ∀ m : Matching (Model.Cube K) (Live.Cube K), m.pairs.filterMap (cubeOp? bones all) =
      (m.pairs.map unplacedClaim).filterMap (cubeOp? bones all) := by
    intro m
    rw [List.filterMap_map]
    congr 1
    funext pair
    exact (cubeOp?_unplaced pair).symm
  rw [cubeOps, cubeOps, hops, hops, h.pairs]

end Operations

section Steps

variable {K : Type} [Scalar K] {mode : Mode} {deleteOrphans : Bool} {model : Model K}
  {live live' : Live K}

lemma desiredSteps_map_op : (desiredSteps mode model live).map Step.op =
    boneOps model.bones mode.comparesAll (boneMatching model live) ++
      cubeOps model.bones mode.comparesAll (cubeMatching model live) := by
  rw [desiredSteps, List.map_append, List.map_append, boneSteps_map_op, cubeSteps_map_op,
    cubeSteps_map_op]
  rfl

omit [Scalar K] in
lemma leftSteps_map_op_perm : ((leftSteps mode deleteOrphans model live).map Step.op).Perm
    (if mode = .replace ∧ deleteOrphans then
      (((cubeMatching model live).orphans model.cubes.toList).map Slot.unplaced).map
          (fun slot => .deleteCube slot.entity.id slot.entity.name) ++
        (((boneMatching model live).orphans model.bones.toList).map Slot.unplaced).map
          fun slot => .deleteBone slot.entity.id slot.entity.name
    else []) := by
  rw [leftSteps]
  split_ifs
  · rw [List.map_append, List.map_map, List.map_map, List.map_map]
    refine List.Perm.append_left _ ((leftBoneSteps_perm.map Step.op).trans (.of_eq ?_))
    rw [List.map_map]
    rfl
  · exact .refl _

omit [Scalar K] in
lemma leftSteps_perm (hbones : SameMatching (boneMatching model live) (boneMatching model live'))
    (hcubes : SameMatching (cubeMatching model live) (cubeMatching model live')) :
    ((leftSteps mode deleteOrphans model live).map Step.op).Perm
      ((leftSteps mode deleteOrphans model live').map Step.op) := by
  refine (leftSteps_map_op_perm.trans ?_).trans leftSteps_map_op_perm.symm
  split_ifs
  · exact ((hcubes.orphans_perm _).map _).append ((hbones.orphans_perm _).map _)
  · exact .refl _

omit [Scalar K] in
lemma ofOps_perm {ops ops' : List (Op K)} (h : ops.Perm ops') (model : Model K) :
    Summary.ofOps ops model = Summary.ofOps ops' model := by
  simp only [Summary.ofOps, h.countP_eq, h.length_eq]

end Steps

section Plans

variable {K : Type}

/-- Snapshots of the same entities, in whatever order. -/
structure Reordered (live live' : Live K) : Prop where
  bones : live.bones.Perm live'.bones
  cubes : live.cubes.Perm live'.cubes
  revision : live.revision = live'.revision

def Op.Deletes (op : Op K) : Prop := op.kind = .deleteBone ∨ op.kind = .deleteCube

/-- The same fault, or plans that create and update alike, and delete the same in whatever order. -/
inductive SameOutcome : Except (Fault K) (Plan K) → Except (Fault K) (Plan K) → Prop
  | fault (fault : Fault K) : SameOutcome (.error fault) (.error fault)
  | plans (ops : List (Op K)) {deletions deletions' : List (Op K)} (summary : Summary)
      (revision : Option String) (hops : ∀ op ∈ ops, ¬ op.Deletes)
      (hdeletions : ∀ op ∈ deletions, op.Deletes) (hperm : deletions.Perm deletions') :
      SameOutcome (.ok ⟨ops ++ deletions, summary, revision⟩)
        (.ok ⟨ops ++ deletions', summary, revision⟩)

variable [Scalar K] {mode : Mode} {deleteOrphans : Bool} {model : Model K} {live live' : Live K}

omit [Scalar K] in
lemma deletes_iff_group (s : Step K) : s.op.Deletes ↔ 3 ≤ s.kind.group := by
  rw [Op.Deletes, Step.kind]
  cases s.op.kind <;> simp [OpKind.group]

lemma ofModel_eq (mode : Mode) (deleteOrphans : Bool) (model : Model K) (live : Live K) :
    ofModel mode deleteOrphans model live =
      (Mode.check mode .bone (boneMatching model live) >>= fun _ =>
        Mode.check mode .cube (cubeMatching model live) >>= fun _ =>
          .ok ⟨(desiredSteps mode model live).map Step.op ++
            (leftSteps mode deleteOrphans model live).map Step.op,
              .ofOps (opsFor mode deleteOrphans model live) model, live.revision⟩) := by
  rw [← List.map_append, ← sequence, sequence_map_op]
  rfl

lemma opsFor_perm
    (hdesired : (desiredSteps mode model live).map Step.op =
      (desiredSteps mode model live').map Step.op)
    (hleft : ((leftSteps mode deleteOrphans model live).map Step.op).Perm
      ((leftSteps mode deleteOrphans model live').map Step.op)) :
    (opsFor mode deleteOrphans model live).Perm (opsFor mode deleteOrphans model live') := by
  rw [← sequence_map_op, ← sequence_map_op, sequence, sequence, List.map_append, List.map_append,
    hdesired]
  exact hleft.append_left _

/-- The order of the live entities makes no difference to what is created and updated and to what is
deleted, nor to the fault. -/
theorem ofModel_reordered (hboneIds : (live.bones.filterMap Live.Bone.id).Nodup)
    (hboneNames : (live.bones.map Live.Bone.name).Nodup)
    (hcubeIds : (live.cubes.filterMap Live.Cube.id).Nodup)
    (hcubeNames : (live.cubes.map Live.Cube.name).Nodup) (h : Reordered live live') :
    SameOutcome (ofModel mode deleteOrphans model live) (ofModel mode deleteOrphans model live') := by
  have hbones : SameMatching (boneMatching model live) (boneMatching model live') :=
    matchUp_perm_live h.bones hboneIds hboneNames _
  have hcubes : SameMatching (cubeMatching model live) (cubeMatching model live') :=
    matchUp_perm_live h.cubes hcubeIds hcubeNames _
  have hdesired : (desiredSteps mode model live).map Step.op =
      (desiredSteps mode model live').map Step.op := by
    rw [desiredSteps_map_op, desiredSteps_map_op, boneOps_eq hbones, cubeOps_eq hcubes]
  have hleft : ((leftSteps mode deleteOrphans model live).map Step.op).Perm
      ((leftSteps mode deleteOrphans model live').map Step.op) := leftSteps_perm hbones hcubes
  rw [ofModel_eq, ofModel_eq, ← hbones.check_eq, ← hcubes.check_eq,
    ← ofOps_perm (opsFor_perm hdesired hleft), ← hdesired, ← h.revision]
  cases Mode.check (K := K) mode .bone (boneMatching model live) with
  | error fault => exact .fault fault
  | ok =>
    cases Mode.check (K := K) mode .cube (cubeMatching model live) with
    | error fault => exact .fault fault
    | ok =>
      refine .plans _ _ _ (fun op hop => ?_) (fun op hop => ?_) hleft
      · obtain ⟨s, hs, rfl⟩ := List.mem_map.mp hop
        rw [deletes_iff_group]
        have hgroup := desiredSteps_groups.1 s hs
        omega
      · obtain ⟨s, hs, rfl⟩ := List.mem_map.mp hop
        exact (deletes_iff_group s).mpr (leftSteps_groups.1 s hs)

end Plans

def shelfLive : Live Float where
  bones := [{ Live.Bone.named "stray" with id := some "stray" },
    { Live.Bone.named "tail" with parent := some "stray" },
    { Live.Bone.named "ghost" with id := some "body" }]

def turnedLive : Live Float := { shelfLive with bones := shelfLive.bones.reverse }

theorem ofModel_reordered_shelf :
    (shelfLive.bones.filterMap Live.Bone.id).Nodup ∧ (shelfLive.bones.map Live.Bone.name).Nodup ∧
      (shelfLive.cubes.filterMap Live.Cube.id).Nodup ∧ (shelfLive.cubes.map Live.Cube.name).Nodup ∧
        Reordered shelfLive turnedLive ∧
          ∃ m, Model.ofSpec .standard (Spec.critter : Spec Float) = .ok m ∧
            SameOutcome (ofModel .replace true m shelfLive) (ofModel .replace true m turnedLive) := by
  obtain ⟨m, hm⟩ : ∃ m, Model.ofSpec .standard (Spec.critter : Spec Float) = .ok m :=
    Attempts.exists_ok (by decide +kernel)
  have hboneIds : (shelfLive.bones.filterMap Live.Bone.id).Nodup := by decide
  have hboneNames : (shelfLive.bones.map Live.Bone.name).Nodup := by decide
  have hcubeIds : (shelfLive.cubes.filterMap Live.Cube.id).Nodup := by decide
  have hcubeNames : (shelfLive.cubes.map Live.Cube.name).Nodup := by decide
  have hreordered : Reordered shelfLive turnedLive :=
    ⟨(List.reverse_perm shelfLive.bones).symm, .refl _, rfl⟩
  exact ⟨hboneIds, hboneNames, hcubeIds, hcubeNames, hreordered, m, hm,
    ofModel_reordered hboneIds hboneNames hcubeIds hcubeNames hreordered⟩

end Armature.Plan
