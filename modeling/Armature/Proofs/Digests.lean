import Armature.Proofs.UniqueReadings

/-! What a digest tells of the operations of a plan: all of them, unless two texts have one digest. -/

namespace Armature

open Json (member member?)

namespace Json

/-- Members with the given keys in this order, some of which may be left out. -/
def Lists (keys : List String) (members : List (Option (String × Json))) : Prop :=
  List.Forall₂ (fun key field => ∀ m ∈ field, m.1 = key ∧ m.2.isProper = true) keys members

lemma record_proper {keys : List String} {members : List (Option (String × Json))}
    (hkeys : keys.Nodup) (h : Lists keys members) : (Json.record members).isProper = true := by
  have hmembers : ((members.filterMap id).map Prod.fst).Sublist keys ∧
      ∀ m ∈ members.filterMap id, m.2.isProper = true := by
    clear hkeys
    induction h with
    | nil => exact ⟨.slnil, by simp⟩
    | @cons key field _ _ hfield _ ih =>
      cases field with
      | none => exact ⟨ih.1.cons _, ih.2⟩
      | some m =>
        obtain ⟨rfl, hm⟩ := hfield m rfl
        exact ⟨ih.1.cons_cons _, List.forall_mem_cons.mpr ⟨hm, ih.2⟩⟩
  exact proper_object.mpr ⟨hkeys.sublist hmembers.1, membersProper_iff.mpr hmembers.2⟩

lemma ofFloat_proper (x : Float) : (ofFloat x).isProper = true := by
  rw [ofFloat]
  split_ifs with hx
  · exact hx
  · rfl

@[simp]
lemma lists_nil : Lists [] [] := .nil

@[simp]
lemma lists_member {key : String} {keys : List String} {value : Json}
    {members : List (Option (String × Json))} :
    Lists (key :: keys) (member key value :: members) ↔ value.isProper = true ∧ Lists keys members := by
  simp [Lists, member]

@[simp]
lemma lists_member? {α : Type} {key : String} {keys : List String} {write : α → Json} {o : Option α}
    {members : List (Option (String × Json))} :
    Lists (key :: keys) (member? key write o :: members) ↔
      (∀ a ∈ o, (write a).isProper = true) ∧ Lists keys members := by
  cases o <;> simp [Lists, member?]

@[simp]
lemma text_proper (s : String) : (text s).isProper = true := rfl

@[simp]
lemma bool_proper (b : Bool) : (bool b).isProper = true := rfl

end Json

open Json (record_proper)

@[simp]
lemma Vec3.toJson_proper (a : Vec3 Float) : a.toJson.isProper = true :=
  Json.areProper_iff.mpr (by simp [Json.ofFloat_proper])

@[simp]
lemma Vec2.toJson_proper (a : Vec2 Float) : a.toJson.isProper = true :=
  Json.areProper_iff.mpr (by simp [Json.ofFloat_proper])

attribute [simp] Json.ofFloat_proper

lemma Live.Bone.toJson_proper (b : Live.Bone Float) : b.toJson.isProper = true :=
  record_proper
    (by decide : ["id", "name", "parentId", "pivot", "rotation", "scale", "visibility"].Nodup) (by simp)

lemma Live.Cube.toJson_proper (c : Live.Cube Float) : c.toJson.isProper = true :=
  record_proper
    (by decide : ["id", "name", "parentId", "from", "to", "origin", "rotation", "inflate", "mirror",
      "visibility", "boxUv", "uvOffset"].Nodup) (by simp)

namespace Plan

lemma BoneChanges.toJson_proper (c : BoneChanges Float) : c.toJson.isProper = true :=
  record_proper
    (by decide : ["id", "name", "parentId", "pivot", "rotation", "scale", "visibility"].Nodup) (by simp)

lemma CubeChanges.toJson_proper (c : CubeChanges Float) : c.toJson.isProper = true :=
  record_proper
    (by decide : ["id", "name", "parentId", "from", "to", "origin", "rotation", "inflate", "mirror",
      "visibility", "boxUv", "uvOffset"].Nodup) (by simp)

lemma Op.toJson_proper (op : Op Float) : op.toJson.isProper = true := by
  have hmoves (key : String) (moves : Bool) : Json.Lists [key] [moves? key moves] := by
    cases moves <;> simp [moves?, Json.Lists]
  cases op with
  | createBone bone =>
    exact record_proper (by decide : ["op", "bone"].Nodup) (by simp [bone.toJson_proper])
  | createCube cube =>
    exact record_proper (by decide : ["op", "cube"].Nodup) (by simp [cube.toJson_proper])
  | updateBone id name changes moves =>
    exact record_proper (by decide : ["op", "id", "name", "changes", "parentRoot"].Nodup)
      (by simp [changes.toJson_proper, hmoves])
  | updateCube id name changes moves =>
    exact record_proper (by decide : ["op", "id", "name", "changes", "boneRoot"].Nodup)
      (by simp [changes.toJson_proper, hmoves])
  | deleteBone id name | deleteCube id name =>
    exact record_proper (by decide : ["op", "id", "name"].Nodup) (by simp)

/-- The operations of any plan, whatever its numbers. -/
lemma opsJson_proper (p : Plan Float) : p.opsJson.isProper = true :=
  Json.areProper_iff.mpr (by simp [Op.toJson_proper])

end Plan

/-- Two texts with one digest. -/
def Blake3.Collision (s t : String) : Prop := s ≠ t ∧ hexOfText s = hexOfText t

namespace Json

/-- A value is determined by its canonical text, up to the order of members and the form of numbers. So
are the operations of a plan by the digest of the plan, as long as their texts do not collide. -/
theorem canonical_determines :
    (∀ v w : Json, v.isProper = true → w.isProper = true → v.canonical = w.canonical →
      Equivalent v w) ∧
    ∀ p q : Plan Float, p.digest = q.digest →
      ¬ Blake3.Collision p.opsJson.canonical q.opsJson.canonical → Equivalent p.opsJson q.opsJson := by
  refine ⟨fun v w => equivalent_of_canonical, fun p q hdigest hcollision => ?_⟩
  have htexts : p.opsJson.canonical = q.opsJson.canonical := by
    by_contra hne
    exact hcollision ⟨hne, hdigest⟩
  exact equivalent_of_canonical p.opsJson_proper q.opsJson_proper htexts

/-- A leg that is raised to a height. -/
def raised (height : Float) : Plan Float where
  ops := [.updateBone none "leg" { pivot := some ⟨0, height, 1⟩ } false]
  summary := { updateBone := 1, bones := 1, total := 1 }
  revision := none

theorem canonical_determines_zeros :
    Equivalent (object [("b", .number (.integer 1)), ("a", .number (.float 0))])
        (object [("a", .number (.float (-0))), ("b", .number (.float 1))]) ∧
      Equivalent (raised 0).opsJson (raised (-0)).opsJson := by
  have hswapped : (object [("b", .number (.integer 1)), ("a", .number (.float 0))]).canonical =
      (object [("a", .number (.float 0)), ("b", .number (.integer 1))]).canonical :=
    canonical_object_perm (by decide) (.swap ..)
  have htexts : (object [("b", .number (.integer 1)), ("a", .number (.float 0))]).canonical =
      (object [("a", .number (.float (-0))), ("b", .number (.float 1))]).canonical :=
    hswapped.trans (canonical_object_congr (by decide +kernel))
  have hplans : (raised 0).opsJson.canonical = (raised (-0)).opsJson.canonical := by
    have hzero : (ofFloat 0).canonical = (ofFloat (-0)).canonical := by decide +kernel
    simp [raised, Plan.opsJson, Plan.Op.toJson, Plan.Op.kind, Plan.BoneChanges.toJson, Vec3.toJson,
      Vec3.toList, record, member, member?, canonical, canonicalItems, canonicalMembers, hzero]
  exact ⟨canonical_determines.1 _ _ (by decide +kernel) (by decide +kernel) htexts,
    canonical_determines.2 _ _ (congrArg Blake3.hexOfText hplans) fun h => h.1 hplans⟩

end Json

end Armature
