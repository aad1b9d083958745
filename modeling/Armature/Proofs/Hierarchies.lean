import Armature.Model.Hierarchy
import Armature.Proofs.Attempts
import Armature.Proofs.Cycles
import Armature.Proofs.Rosters

/-! The hierarchy of bones: climbs end exactly where no bone is its own ancestor, and the bones from
the top down come after their parents. -/

namespace Armature.Model

open Relation

variable {K : Type}

def ParentOf (bones : Bones K) (child parent : String) : Prop :=
  ∃ b ∈ bones.toList, b.id = child ∧ b.parent = some parent

def Acyclic (bones : Bones K) : Prop := ∀ id, ¬ TransGen (ParentOf bones) id id

variable {bones : Bones K} {settled passed : List String} {id child parent : String}

lemma parentOf_iff {bone : Bone K} (h : bones.get? id = some bone) :
    ParentOf bones id parent ↔ bone.parent = some parent := by
  obtain ⟨hm, hid⟩ := Roster.get?_eq_some.mp h
  constructor
  · rintro ⟨b, hb, hbid, hp⟩
    obtain rfl : b = bone := Roster.eq_of_id_eq hb hm (hbid.trans hid.symm)
    exact hp
  · exact fun hp => ⟨bone, hm, hid, hp⟩

lemma ParentOf.mem_ids (h : ParentOf bones child parent) : child ∈ bones.ids := by
  obtain ⟨b, hb, rfl, _⟩ := h
  exact Roster.mem_ids_of_mem hb

lemma ParentOf.unique {other : String} (h : ParentOf bones child parent)
    (h' : ParentOf bones child other) : parent = other := by
  obtain ⟨b, hb, hid, hp⟩ := h
  obtain ⟨b', hb', hid', hp'⟩ := h'
  obtain rfl : b = b' := Roster.eq_of_id_eq hb hb' (hid.trans hid'.symm)
  exact Option.some.inj (hp.symm.trans hp')

def Grounded (bones : Bones K) (id : String) : Prop :=
  Acc (fun parent child => ParentOf bones child parent) id

lemma grounded_of_parent (h : ∀ parent, ParentOf bones id parent → Grounded bones parent) :
    Grounded bones id :=
  Acc.intro id h

lemma grounded_of_not_mem (h : id ∉ bones.ids) : Grounded bones id :=
  grounded_of_parent fun _ hp => (h hp.mem_ids).elim

lemma Grounded.not_cycle (h : Grounded bones id) : ¬ TransGen (ParentOf bones) id id :=
  not_cycle_of_acc h

lemma acyclic_of_grounded (h : ∀ id ∈ bones.ids, Grounded bones id) : Acyclic bones := by
  intro id hc
  obtain ⟨p, hp, _⟩ := TransGen.head'_iff.mp hc
  exact (h id hp.mem_ids).not_cycle hc

lemma climb_grounded (hs : ∀ x ∈ settled, Grounded bones x)
    (h : (climb bones settled passed id).repeated = none) :
    Grounded bones id ∧
      ∀ x ∈ (climb bones settled passed id).passed, x ∈ passed ∨ Grounded bones x := by
  -- what was passed is grounded from the end of the climb downwards
  fun_induction climb bones settled passed id with
  | case1 passed id hc => exact ⟨hs id (by simpa using hc), fun x hx => .inl hx⟩
  | case2 passed id hc hp => cases h
  | case3 passed id hc hp hn =>
    exact ⟨grounded_of_not_mem (Roster.get?_eq_none.mp hn), fun x hx => .inl hx⟩
  | case4 passed id hc hp bone hb _ hn =>
    have hg : Grounded bones id := grounded_of_parent fun p hp => by
      rw [parentOf_iff hb, hn] at hp
      cases hp
    refine ⟨hg, fun x hx => ?_⟩
    rcases List.mem_cons.mp hx with rfl | hx
    · exact .inr hg
    · exact .inl hx
  | case5 passed id hc hp bone hb _ parent hn ih =>
    obtain ⟨hg, hx⟩ := ih h
    have hid : Grounded bones id := grounded_of_parent fun p hp => by
      rw [parentOf_iff hb, hn] at hp
      exact Option.some.inj hp ▸ hg
    refine ⟨hid, fun x hm => ?_⟩
    rcases hx x hm with hx | hx
    · rcases List.mem_cons.mp hx with rfl | hx
      · exact .inr hid
      · exact .inl hx
    · exact .inr hx

lemma checkCycles_grounded {ids : List String} (hs : ∀ x ∈ settled, Grounded bones x)
    (h : checkCycles bones settled ids = .ok ()) : ∀ x ∈ ids, Grounded bones x := by
  induction ids generalizing settled with
  | nil => simp
  | cons id rest ih =>
    rw [checkCycles] at h
    split at h
    · cases h
    · next passed hc =>
      have hr : (climb bones settled [] id).repeated = none := by rw [hc]
      obtain ⟨hid, hp⟩ := climb_grounded hs hr
      have hrest := ih (fun x hx => by
        rcases List.mem_append.mp hx with hx | hx
        · exact (hp x (by rwa [hc])).resolve_left (List.not_mem_nil)
        · exact hs x hx) h
      intro x hx
      rcases List.mem_cons.mp hx with rfl | hx
      · exact hid
      · exact hrest x hx

lemma climb_repeated {again : String} (hpassed : ∀ x ∈ passed, TransGen (ParentOf bones) x id)
    (h : (climb bones settled passed id).repeated = some again) :
    TransGen (ParentOf bones) again again := by
  fun_induction climb bones settled passed id with
  | case1 => cases h
  | case2 passed id _ hp =>
    obtain rfl := Option.some.inj h
    exact hpassed id hp
  | case3 => cases h
  | case4 => cases h
  | case5 passed id _ _ bone hb _ parent hn ih =>
    have hedge : ParentOf bones id parent := (parentOf_iff hb).mpr hn
    refine ih (List.forall_mem_cons.mpr ⟨.single hedge, fun x hx => (hpassed x hx).tail hedge⟩) h

lemma checkCycles_of_acyclic {ids : List String} (h : Acyclic bones) :
    checkCycles bones settled ids = .ok () := by
  induction ids generalizing settled with
  | nil => rfl
  | cons id rest ih =>
    rw [checkCycles]
    split
    · next again hc =>
      have hr : (climb bones settled [] id).repeated = some again := by rw [hc]
      exact (h again (climb_repeated (by simp) hr)).elim
    · exact ih

def NewNames {α : Type} (name : α → String) (earlier rest : List α) : Prop :=
  (rest.map name).Nodup ∧ ∀ a ∈ rest, name a ∉ earlier.map name

lemma newNames_cons {α : Type} {name : α → String} {earlier rest : List α} {a : α} :
    NewNames name earlier (a :: rest) ↔
      name a ∉ earlier.map name ∧ NewNames name (a :: earlier) rest := by
  simp only [NewNames, List.map_cons, List.nodup_cons, List.mem_cons, List.mem_map]
  constructor
  · rintro ⟨⟨ha, hr⟩, he⟩
    refine ⟨he a (.inl rfl), hr, fun b hb => ?_⟩
    rintro (hba | hbe)
    · exact ha ⟨b, hb, hba⟩
    · exact he b (.inr hb) hbe
  · rintro ⟨ha, hr, he⟩
    refine ⟨⟨fun ⟨b, hb, hba⟩ => he b hb (.inl hba), hr⟩, ?_⟩
    rintro b (rfl | hb)
    · exact ha
    · exact fun hbe => he b hb (.inr hbe)

lemma checkName_ok {α : Type} [Identified α] {kind : Kind} {name : α → String} {earlier : List α}
    {a : α} : checkName (K := K) kind name earlier a = .ok () ↔ name a ∉ earlier.map name := by
  unfold checkName
  split
  · next b hb =>
    have hm := List.mem_of_find?_eq_some hb
    have hn : name b = name a := by simpa using List.find?_some hb
    simp only [reduceCtorEq, List.mem_map, not_exists, not_and, false_iff, not_forall, not_not]
    exact ⟨b, hm, hn⟩
  · next hb =>
    simpa [List.find?_eq_none] using hb

lemma checkBonesFrom_ok {earlier rest : List (Bone K)} :
    checkBonesFrom bones earlier rest = .ok () ↔
      NewNames Bone.name earlier rest ∧
        ∀ b ∈ rest, ∀ p, b.parent = some p → p ∈ bones.ids := by
  induction rest generalizing earlier with
  | nil => simp [checkBonesFrom, NewNames]
  | cons b rest ih =>
    rw [checkBonesFrom, Attempts.then_ok, newNames_cons, checkName_ok, List.forall_mem_cons]
    cases hp : b.parent with
    | none => simp [ih, and_assoc]
    | some p =>
      by_cases hc : bones.contains p
      · simp [ih, hc, Roster.contains_iff.mp hc, and_assoc]
      · have hm : p ∉ bones.ids := fun hm => hc (Roster.contains_iff.mpr hm)
        simp [hc, hm, throw, throwThe, MonadExceptOf.throw]

lemma checkCubeNames_ok {earlier rest : List (Cube K)} :
    checkCubeNames earlier rest = .ok () ↔ NewNames Cube.name earlier rest := by
  induction rest generalizing earlier with
  | nil => simp [checkCubeNames, NewNames]
  | cons c rest ih =>
    rw [checkCubeNames, Attempts.then_ok, newNames_cons, checkName_ok, ih]

lemma checkCubeCount_ok {limit : Nat} {cubes : Cubes K} :
    checkCubeCount limit cubes = .ok () ↔ cubes.size ≤ limit := by
  unfold checkCubeCount
  split_ifs with h
  · simp [h]
  · simpa using h

structure SoundBones (limits : Limits) (bones : Bones K) : Prop where
  count : bones.size ≤ limits.maxBones
  names : (bones.toList.map Bone.name).Nodup
  parents : ∀ b ∈ bones.toList, ∀ p, b.parent = some p → p ∈ bones.ids
  acyclic : Acyclic bones

structure SoundCubes (limits : Limits) (bones : Bones K) (cubes : Cubes K) : Prop where
  count : cubes.size ≤ limits.maxCubes
  names : (cubes.toList.map Cube.name).Nodup
  parents : ∀ c ∈ cubes.toList, c.parent ∈ bones.ids

variable {limits : Limits}

lemma checkBones_ok : checkBones limits bones = .ok () ↔ SoundBones limits bones := by
  unfold checkBones
  constructor
  · intro h
    split at h
    · cases h
    next hcount =>
    obtain ⟨hfrom, hcycles⟩ := Attempts.then_ok.mp h
    obtain ⟨hnames, hparents⟩ := checkBonesFrom_ok.mp hfrom
    exact {
      count := Nat.not_lt.mp hcount
      names := hnames.1
      parents := hparents
      acyclic := acyclic_of_grounded (checkCycles_grounded (by simp) hcycles) }
  · intro h
    have hfrom : checkBonesFrom bones [] bones.toList = .ok () :=
      checkBonesFrom_ok.mpr ⟨⟨h.names, by simp⟩, h.parents⟩
    rw [if_neg (Nat.not_lt.mpr h.count)]
    exact Attempts.then_ok.mpr ⟨hfrom, checkCycles_of_acyclic h.acyclic⟩

lemma checkCubes_ok {cubes : Cubes K} :
    checkCubes limits bones cubes = .ok () ↔ SoundCubes limits bones cubes := by
  have hparents : (cubes.toList.find? fun cube => !bones.contains cube.parent) = none ↔
      ∀ c ∈ cubes.toList, c.parent ∈ bones.ids := by
    simp [List.find?_eq_none, Roster.contains_iff]
  rw [checkCubes, Attempts.then_ok, checkCubeNames_ok]
  constructor
  · rintro ⟨hnames, h⟩
    split at h
    · cases h
    · next hnone => exact ⟨checkCubeCount_ok.mp h, hnames.1, hparents.mp hnone⟩
  · intro h
    refine ⟨⟨h.names, by simp⟩, ?_⟩
    rw [hparents.mpr h.parents]
    exact checkCubeCount_ok.mpr h.count

end Armature.Model
