import Armature.Plan.Json
import Armature.Proofs.GeometryDocuments

/-! What is written of a plan or of a live model is read back as the same plan or live model. -/

namespace Armature

open Json

namespace Live

section Finite

variable {K : Type} [Scalar K]

def Bone.isFinite (b : Bone K) : Bool := b.pivot.isFinite && b.rotation.isFinite && b.scale.isFinite

def Cube.isFinite (c : Cube K) : Bool :=
  c.lower.isFinite && c.upper.isFinite && c.origin.all Vec3.isFinite && c.rotation.isFinite &&
    c.inflate.all Scalar.isFinite && c.uvOffset.all Vec2.isFinite

def isFinite (l : Live K) : Bool := l.bones.all Bone.isFinite && l.cubes.all Cube.isFinite

end Finite

lemma Bone.restores {b : Bone Float} (h : b.isFinite = true) : Restores reader toJson b := by
  simp only [isFinite, Bool.and_eq_true, and_assoc] at h
  obtain ⟨hpivot, hrotation, hscale⟩ := h
  exact record_restores (by decide) rfl <|
    .unset rfl (fun id _ => text_restores id) <|
    .mandatory (text_restores b.name) <|
    .unset rfl (fun parent _ => text_restores parent) <|
    .defaulted (Vec3.restores hpivot) <|
    .defaulted (Vec3.restores hrotation) <|
    .defaulted (Vec3.restores hscale) <|
    .unset rfl (fun visibility _ => bool_restores visibility) <|
    .done b

lemma Bone.settable : Settable fields where
  commuting := by simp [fields, FieldReader.mandatory, FieldReader.unset, FieldReader.defaulted]
  orderless := by simp [fields, FieldReader.mandatory, FieldReader.unset, FieldReader.defaulted]

@[simp]
lemma Bone.orderless : Orderless Bone.reader := record_orderless settable .ignore _

lemma Cube.restores {c : Cube Float} (h : c.isFinite = true) : Restores reader toJson c := by
  simp only [isFinite, Bool.and_eq_true, and_assoc, Option.all_eq_true] at h
  obtain ⟨hlower, hupper, horigin, hrotation, hinflate, huvOffset⟩ := h
  exact record_restores (by decide) rfl <|
    .unset rfl (fun id _ => text_restores id) <|
    .mandatory (text_restores c.name) <|
    .unset rfl (fun parent _ => text_restores parent) <|
    .mandatory (Vec3.restores hlower) <|
    .mandatory (Vec3.restores hupper) <|
    .unset rfl (fun origin ho => Vec3.restores (horigin origin ho)) <|
    .defaulted (Vec3.restores hrotation) <|
    .unset rfl (fun inflate hi => float_restores (hinflate inflate hi)) <|
    .unset rfl (fun mirror _ => bool_restores mirror) <|
    .unset rfl (fun visibility _ => bool_restores visibility) <|
    .unset rfl (fun boxUv _ => bool_restores boxUv) <|
    .unset rfl (fun uvOffset hu => Vec2.restores (huvOffset uvOffset hu)) <|
    .done c

lemma Cube.settable : Settable fields where
  commuting := by simp [fields, FieldReader.mandatory, FieldReader.unset, FieldReader.defaulted]
  orderless := by simp [fields, FieldReader.mandatory, FieldReader.unset, FieldReader.defaulted]

@[simp]
lemma Cube.orderless : Orderless Cube.reader := record_orderless settable .ignore _

lemma restores {l : Live Float} (h : l.isFinite = true) : Restores reader toJson l := by
  simp only [isFinite, Bool.and_eq_true, List.all_eq_true] at h
  exact record_restores (by decide) rfl <|
    .defaulted (list_restores fun b hb => Bone.restores (h.1 b hb)) <|
    .defaulted (list_restores fun c hc => Cube.restores (h.2 c hc)) <|
    .unset rfl (fun revision _ => text_restores revision) <|
    .done l

lemma settable : Settable fields where
  commuting := by simp [fields, FieldReader.unset, FieldReader.defaulted]
  orderless := by simp [fields, FieldReader.unset, FieldReader.defaulted]

@[simp]
lemma orderless : Orderless reader := record_orderless settable .ignore _

end Live

namespace Plan

section Finite

variable {K : Type} [Scalar K]

def BoneChanges.isFinite (c : BoneChanges K) : Bool :=
  c.pivot.all Vec3.isFinite && c.rotation.all Vec3.isFinite && c.scale.all Vec3.isFinite

def CubeChanges.isFinite (c : CubeChanges K) : Bool :=
  c.lower.all Vec3.isFinite && c.upper.all Vec3.isFinite && c.origin.all Vec3.isFinite &&
    c.rotation.all Vec3.isFinite && c.inflate.all Scalar.isFinite && c.uvOffset.all Vec2.isFinite

def Op.isFinite : Op K → Bool
  | createBone bone => bone.isFinite
  | createCube cube => cube.isFinite
  | updateBone _ _ changes _ => changes.isFinite
  | updateCube _ _ changes _ => changes.isFinite
  | deleteBone .. | deleteCube .. => true

def isFinite (p : Plan K) : Bool := p.ops.all Op.isFinite

end Finite

namespace Summary

/-- Whether all counts fit into 64 bits. -/
def fits (s : Summary) : Bool :=
  [s.createBone, s.updateBone, s.deleteBone, s.createCube, s.updateCube, s.deleteCube, s.bones,
    s.cubes, s.total].all fun count => decide (count ≤ limit)

lemma count_restores {n : ℕ} (h : n ≤ limit) : Restores (Reader.count limit) ofNat n :=
  Json.count_restores (Nat.sub_lt (by decide) one_pos) h

lemma restores {s : Summary} (h : s.fits = true) : Restores reader toJson s := by
  simp only [fits, List.all_cons, List.all_nil, Bool.and_eq_true, decide_eq_true_eq] at h
  obtain ⟨hcb, hub, hdb, hcc, huc, hdc, hbones, hcubes, htotal, -⟩ := h
  exact record_restores (by decide) rfl <|
    .mandatory (count_restores hcb) <| .mandatory (count_restores hub) <|
    .mandatory (count_restores hdb) <| .mandatory (count_restores hcc) <|
    .mandatory (count_restores huc) <| .mandatory (count_restores hdc) <|
    .mandatory (count_restores hbones) <| .mandatory (count_restores hcubes) <|
    .mandatory (count_restores htotal) <| .done s

lemma settable : Settable fields where
  commuting := by simp [fields, FieldReader.mandatory]
  orderless := by simp [fields, FieldReader.mandatory]

@[simp]
lemma orderless : Orderless reader := record_orderless settable .ignore _

end Summary

namespace BoneChanges

lemma restores {c : BoneChanges Float} (h : c.isFinite = true) : Restores reader toJson c := by
  simp only [isFinite, Bool.and_eq_true, and_assoc, Option.all_eq_true] at h
  obtain ⟨hpivot, hrotation, hscale⟩ := h
  exact record_restores (by decide) rfl <|
    .unset rfl (fun id _ => text_restores id) <|
    .unset rfl (fun name _ => text_restores name) <|
    .unset rfl (fun parent _ => text_restores parent) <|
    .unset rfl (fun pivot hp => Vec3.restores (hpivot pivot hp)) <|
    .unset rfl (fun rotation hr => Vec3.restores (hrotation rotation hr)) <|
    .unset rfl (fun scale hs => Vec3.restores (hscale scale hs)) <|
    .unset rfl (fun visibility _ => bool_restores visibility) <|
    .done c

lemma settable : Settable fields where
  commuting := by simp [fields, FieldReader.unset, FieldReader.defaulted]
  orderless := by simp [fields, FieldReader.unset, FieldReader.defaulted]

@[simp]
lemma orderless : Orderless reader := record_orderless settable .ignore _

end BoneChanges

namespace CubeChanges

lemma restores {c : CubeChanges Float} (h : c.isFinite = true) : Restores reader toJson c := by
  simp only [isFinite, Bool.and_eq_true, and_assoc, Option.all_eq_true] at h
  obtain ⟨hlower, hupper, horigin, hrotation, hinflate, huvOffset⟩ := h
  exact record_restores (by decide) rfl <|
    .unset rfl (fun id _ => text_restores id) <|
    .unset rfl (fun name _ => text_restores name) <|
    .unset rfl (fun parent _ => text_restores parent) <|
    .unset rfl (fun lower hl => Vec3.restores (hlower lower hl)) <|
    .unset rfl (fun upper hu => Vec3.restores (hupper upper hu)) <|
    .unset rfl (fun origin ho => Vec3.restores (horigin origin ho)) <|
    .unset rfl (fun rotation hr => Vec3.restores (hrotation rotation hr)) <|
    .unset rfl (fun inflate hi => float_restores (hinflate inflate hi)) <|
    .unset rfl (fun mirror _ => bool_restores mirror) <|
    .unset rfl (fun visibility _ => bool_restores visibility) <|
    .unset rfl (fun boxUv _ => bool_restores boxUv) <|
    .unset rfl (fun uvOffset hu => Vec2.restores (huvOffset uvOffset hu)) <|
    .done c

lemma settable : Settable fields where
  commuting := by simp [fields, FieldReader.unset, FieldReader.defaulted]
  orderless := by simp [fields, FieldReader.unset, FieldReader.defaulted]

@[simp]
lemma orderless : Orderless reader := record_orderless settable .ignore _

end CubeChanges

section Bodies

variable {γ : Type} {changes : Reader γ} {write : γ → Json} {moves : String}

def Update.members (write : γ → Json) (moves : String) (u : Update γ) :
    List (Option (String × Json)) :=
  [member? "id" .text u.id, member "name" (.text u.name), member "changes" (write u.changes),
    moves? moves u.moves]

lemma Update.flagged (u : Update γ) :
    Writes [.defaulted moves Reader.bool fun u moves => { u with moves }] [moves? moves u.moves]
      { u with moves := false } u := by
  obtain ⟨id, name, changes, flag⟩ := u
  cases flag with
  | false => exact .absent rfl (.done _)
  | true => exact .defaulted (bool_restores true) (.done _)

lemma Update.restores {u : Update γ} {blank : γ} (hmoves : moves ∉ ["id", "name", "changes"])
    (h : Restores changes write u.changes) :
    Restores (Reader.record (Update.fields changes moves) .ignore { changes := blank })
      (fun u => record (u.members write moves)) u := by
  refine record_restores ?_ rfl <|
    .unset rfl (fun id _ => text_restores id) <|
    .mandatory (text_restores u.name) <|
    .mandatory h u.flagged
  simp only [List.mem_cons, not_or] at hmoves
  simp [Update.fields, FieldReader.unset, FieldReader.defaulted, FieldReader.mandatory, Ne.symm hmoves.1,
    Ne.symm hmoves.2.1, Ne.symm hmoves.2.2.1]

lemma Update.settable (h : Orderless changes) : Settable (Update.fields changes moves) where
  commuting := by simp [fields, FieldReader.unset, FieldReader.defaulted, FieldReader.mandatory]
  orderless := by simp [fields, FieldReader.unset, FieldReader.defaulted, FieldReader.mandatory, h]

def deletionMembers (d : Option String × String) : List (Option (String × Json)) :=
  [member? "id" .text d.1, member "name" (.text d.2)]

lemma deletion_restores (d : Option String × String) :
    Restores (Reader.record deletionFields .ignore (none, "")) (fun d => record (deletionMembers d))
      d :=
  record_restores (by decide) rfl <|
    .unset rfl (fun id _ => text_restores id) <| .mandatory (text_restores d.2) <| .done d

lemma deletion_settable : Settable deletionFields where
  commuting := by
    simp [deletionFields, FieldReader.unset, FieldReader.defaulted, FieldReader.mandatory]
  orderless := by
    simp [deletionFields, FieldReader.unset, FieldReader.defaulted, FieldReader.mandatory]

end Bodies

namespace Op

def members : Op Float → List (Option (String × Json))
  | createBone bone => [member "bone" bone.toJson]
  | createCube cube => [member "cube" cube.toJson]
  | updateBone id name changes toTop =>
    Update.members BoneChanges.toJson "parentRoot" ⟨id, name, changes, toTop⟩
  | updateCube id name changes toRoot =>
    Update.members CubeChanges.toJson "boneRoot" ⟨id, name, changes, toRoot⟩
  | deleteBone id name | deleteCube id name => deletionMembers (id, name)

lemma toJson_eq (op : Op Float) :
    op.toJson = record (member "op" (.text op.kind.name) :: op.members) := by
  cases op <;> rfl

def boneFields : List (FieldReader (Live.Bone Float)) :=
  [.mandatory "bone" Live.Bone.reader fun _ bone => bone]

def cubeFields : List (FieldReader (Live.Cube Float)) :=
  [.mandatory "cube" Live.Cube.reader fun _ cube => cube]

lemma readBody_eq (kind : OpKind) : readBody kind = fun o =>
    match kind with
    | .createBone => createBone <$> Reader.record boneFields .ignore (.named "") o
    | .createCube => createCube <$> Reader.record cubeFields .ignore (.named "") o
    | .updateBone =>
      (fun u => updateBone u.id u.name u.changes u.moves) <$>
        Reader.record (Update.fields BoneChanges.reader "parentRoot") .ignore { changes := {} } o
    | .updateCube =>
      (fun u => updateCube u.id u.name u.changes u.moves) <$>
        Reader.record (Update.fields CubeChanges.reader "boneRoot") .ignore { changes := {} } o
    | .deleteBone =>
      (fun d => deleteBone d.1 d.2) <$> Reader.record deletionFields .ignore (none, "") o
    | .deleteCube =>
      (fun d => deleteCube d.1 d.2) <$> Reader.record deletionFields .ignore (none, "") o := by
  funext o
  cases kind <;> rfl

lemma bone_restores {bone : Live.Bone Float} (h : bone.isFinite = true) :
    Restores (Reader.record boneFields .ignore (.named ""))
      (fun bone => record [member "bone" bone.toJson]) bone :=
  record_restores (by decide) rfl <| .mandatory (Live.Bone.restores h) <| .done bone

lemma cube_restores {cube : Live.Cube Float} (h : cube.isFinite = true) :
    Restores (Reader.record cubeFields .ignore (.named ""))
      (fun cube => record [member "cube" cube.toJson]) cube :=
  record_restores (by decide) rfl <| .mandatory (Live.Cube.restores h) <| .done cube

lemma readBody_restores {op : Op Float} (h : op.isFinite = true) :
    Restores (readBody op.kind) (fun op => record op.members) op := by
  rw [readBody_eq]
  cases op with
  | createBone bone => exact (bone_restores h).map rfl
  | createCube cube => exact (cube_restores h).map rfl
  | updateBone id name changes toTop =>
    exact (Update.restores (u := ⟨id, name, changes, toTop⟩) (by decide)
      (BoneChanges.restores h)).map rfl
  | updateCube id name changes toRoot =>
    exact (Update.restores (u := ⟨id, name, changes, toRoot⟩) (by decide)
      (CubeChanges.restores h)).map rfl
  | deleteBone id name => exact (deletion_restores (id, name)).map rfl
  | deleteCube id name => exact (deletion_restores (id, name)).map rfl

lemma readBody_orderless (kind : OpKind) : Orderless (readBody kind) := by
  have hbone : Settable boneFields :=
    ⟨by simp [boneFields], by simp [boneFields, FieldReader.mandatory]⟩
  have hcube : Settable cubeFields :=
    ⟨by simp [cubeFields], by simp [cubeFields, FieldReader.mandatory]⟩
  rw [readBody_eq]
  cases kind with
  | createBone => exact map_orderless (record_orderless hbone _ _)
  | createCube => exact map_orderless (record_orderless hcube _ _)
  | updateBone => exact map_orderless (record_orderless (Update.settable BoneChanges.orderless) _ _)
  | updateCube => exact map_orderless (record_orderless (Update.settable CubeChanges.orderless) _ _)
  | deleteBone | deleteCube => exact map_orderless (record_orderless deletion_settable _ _)

lemma splitMembers_other {kind : Option OpKind} {key : String} (hkey : key ≠ "op") {value : Json}
    {rest : List (Option String × Outline)} :
    splitMembers true kind ((some key, .ofJson value) :: rest) =
      (splitMembers true kind rest).map fun split =>
        (split.1, (some key, .ofJson value) :: split.2) := by
  simp only [splitMembers, hkey, if_false, Reader.raw, Outline.value?_ofJson]
  cases splitMembers true kind rest <;> rfl

lemma splitMembers_some {kind : OpKind} {others : List (String × Json)}
    (h : "op" ∉ others.map Prod.fst) :
    splitMembers true (some kind) (Outline.ofMembers others) =
      .ok (some kind, Outline.ofMembers others) := by
  induction others with
  | nil => rfl
  | cons other rest ih =>
    rw [List.map_cons, List.mem_cons, not_or] at h
    rw [Outline.ofMembers, splitMembers_other (Ne.symm h.1), ih h.2, Except.map]

/-- Wherever the kind stands among the members, the others are what the rest is read from. -/
lemma splitMembers_ok {kind : OpKind} {all : List (String × Json)}
    {others : List (Option String × Outline)} (hkeys : (all.map Prod.fst).Nodup) :
    splitMembers true none (Outline.ofMembers all) = .ok (some kind, others) ↔
      ∃ value, ("op", value) ∈ all ∧ readKind (.ofJson value) = .ok kind ∧
        others = Outline.ofMembers (without "op" all) := by
  induction all generalizing others with
  | nil => simp [Outline.ofMembers, splitMembers]
  | cons member rest ih =>
    obtain ⟨hnew, hrest⟩ := List.nodup_cons.mp hkeys
    obtain ⟨key, value⟩ := member
    by_cases hkey : key = "op"
    · subst hkey
      have hvalue (other : Json) : ("op", other) ∈ ("op", value) :: rest ↔ other = value := by
        have hnot : ("op", other) ∉ rest := fun hmem => hnew (List.mem_map.mpr ⟨_, hmem, rfl⟩)
        simp [hnot]
      simp only [hvalue, exists_eq_left, without_cons_self hnew]
      rw [Outline.ofMembers, splitMembers, if_pos rfl]
      cases hkind : readKind (.ofJson value) with
      | error e => simp [Attempts.bind_ok]
      | ok k =>
        simp only [Option.isSome_none, Bool.false_eq_true, if_false, bind_ok_left,
          splitMembers_some hnew]
        simp [eq_comm]
    · have hvalue (other : Json) : ("op", other) ∈ (key, value) :: rest ↔ ("op", other) ∈ rest := by
        simp [Ne.symm hkey]
      simp only [hvalue, without_cons_of_ne (a := (key, value)) hkey, Outline.ofMembers]
      rw [splitMembers_other hkey, Attempts.map_ok]
      constructor
      · rintro ⟨⟨first, others'⟩, hsplit, hothers⟩
        obtain ⟨rfl, rfl⟩ := Prod.mk.inj hothers
        obtain ⟨value', hmem, hkind, rfl⟩ := (ih hrest).mp hsplit
        exact ⟨value', hmem, hkind, rfl⟩
      · rintro ⟨value', hmem, hkind, rfl⟩
        exact ⟨_, (ih hrest).mpr ⟨value', hmem, hkind, rfl⟩, rfl⟩

lemma settleShape_ok {α : Type} {x : Except ReadError α} {a : α} :
    settleShape x = .ok a ↔ x = .ok a := by
  cases x <;> simp [settleShape]

lemma reader_object {all : List (String × Json)} (hkeys : (all.map Prod.fst).Nodup) {op : Op Float} :
    reader (.ofJson (.object all)) = .ok op ↔
      ∃ value kind, ("op", value) ∈ all ∧ readKind (.ofJson value) = .ok kind ∧
        readBody kind (.ofJson (.object (without "op" all))) = .ok op := by
  rw [Outline.ofJson, reader, Attempts.bind_ok]
  constructor
  · rintro ⟨⟨kind, others⟩, hsplit, hread⟩
    cases kind with
    | none => cases hread
    | some kind =>
      obtain ⟨value, hmem, hkind, rfl⟩ := (splitMembers_ok hkeys).mp hsplit
      exact ⟨value, kind, hmem, hkind, settleShape_ok.mp hread⟩
  · rintro ⟨value, kind, hmem, hkind, hread⟩
    exact ⟨_, (splitMembers_ok hkeys).mpr ⟨value, hmem, hkind, rfl⟩, settleShape_ok.mpr hread⟩

lemma reader_array {first : Json} {rest : List Json} {op : Op Float} :
    reader (.ofJson (.array (first :: rest))) = .ok op ↔
      ∃ kind, readKind (.ofJson first) = .ok kind ∧
        readBody kind (.ofJson (.array rest)) = .ok op := by
  have hrest : Reader.raw (.array (Outline.ofItems rest) true) = .ok (Json.array rest).sorted :=
    raw_ofJson (.array rest)
  rw [Outline.ofJson, Outline.ofItems, reader, Attempts.bind_ok]
  simp only [hrest, bind_ok_left, settleShape_ok, Outline.ofJson]

lemma readKind_orderless : Orderless readKind :=
  orderless_of_scalar (fun _ _ h => nomatch h) fun _ _ h => nomatch h

@[simp]
lemma orderless : Orderless reader := by
  intro v w hv hvw op hop
  rcases reordered_cases hvw with rfl | ⟨as, bs, rfl, rfl, hitems⟩ | ⟨as, bs, rfl, rfl, hmembers⟩
  · exact hop
  · match as, bs, hitems with
    | [], [], _ => exact hop
    | a :: as, b :: bs, ⟨hfirst, hrest⟩ =>
      rw [isProper, areProper, Bool.and_eq_true] at hv
      obtain ⟨kind, hkind, hread⟩ := reader_array.mp hop
      exact reader_array.mpr ⟨kind, readKind_orderless hv.1 hfirst hkind,
        @readBody_orderless kind (.array as) (.array bs) hv.2 hrest _ hread⟩
  · obtain ⟨hkeys, hproper⟩ := proper_object.mp hv
    obtain ⟨value, kind, hmem, hkind, hread⟩ := (reader_object hkeys).mp hop
    obtain ⟨value', hmem', hvalue⟩ := hmembers.exists_member hmem
    exact (reader_object (hmembers.nodup hkeys)).mpr ⟨value', kind, hmem',
      readKind_orderless (membersProper_iff.mp hproper _ hmem) hvalue hkind,
      readBody_orderless kind (proper_without "op" hv) (hmembers.without "op") hread⟩

lemma restores {op : Op Float} (h : op.isFinite = true) : Restores reader toJson op := by
  have hkind : readKind (.ofJson (.text op.kind.name)) = .ok op.kind := by cases op <;> rfl
  have hbody := readBody_restores h
  obtain ⟨hkeys, hmembers⟩ := proper_object.mp hbody.proper
  have hnew : "op" ∉ (op.members.filterMap id).map Prod.fst := by
    cases op <;> simp [members, member, member?, moves?, Update.members, deletionMembers]
  have hwrite : op.toJson = .object (("op", .text op.kind.name) :: op.members.filterMap id) :=
    op.toJson_eq
  have hproper : op.toJson.isProper = true := by
    rw [hwrite]
    exact proper_object.mpr ⟨List.nodup_cons.mpr ⟨hnew, hkeys⟩, hmembers⟩
  refine restores_of_ne_null hproper (by simp [hwrite, Outline.ofJson]) ?_
  rw [hwrite] at hproper ⊢
  refine (reader_object (proper_object.mp hproper).1).mpr ⟨_, op.kind, List.mem_cons_self, hkind, ?_⟩
  rw [without_cons_self hnew]
  exact hbody.read

end Op

lemma restores {p : Plan Float} (h : p.isFinite = true) (hsummary : p.summary.fits = true) :
    Restores reader toJson p := by
  simp only [isFinite, List.all_eq_true] at h
  exact record_restores (by decide) rfl <|
    .mandatory (list_restores fun op hop => Op.restores (h op hop)) <|
    .mandatory (Summary.restores hsummary) <|
    .unset rfl (fun revision _ => text_restores revision) <|
    .done p

lemma settable : Settable fields where
  commuting := by simp [fields, FieldReader.mandatory, FieldReader.unset, FieldReader.defaulted]
  orderless := by simp [fields, FieldReader.mandatory, FieldReader.unset, FieldReader.defaulted]

lemma orderless : Orderless reader := record_orderless settable .ignore _

/-- In whatever order the members of its objects are written. -/
theorem wire_restored :
    (∀ p : Plan Float, p.isFinite = true → p.summary.fits = true →
      ∀ w, Reordered p.toJson w → Plan.ofJson w = .ok p) ∧
    ∀ l : Live Float, l.isFinite = true → ∀ w, Reordered l.toJson w → Live.ofJson w = .ok l :=
  ⟨fun _ h hsummary _ => (restores h hsummary).in_any_order orderless,
    fun _ h _ => (Live.restores h).in_any_order Live.orderless⟩

/-- One operation of each kind. -/
def armSwap : Plan Float where
  ops :=
    [.createBone { Live.Bone.named "arm" with id := some "arm", scale := ⟨2, 1, 0.5⟩ },
      .updateBone none "leg" { parent := none, pivot := some ⟨0, 12, -0.0⟩ } true,
      .createCube { Live.Cube.named "hand" with parent := some "arm", upper := ⟨4, 1.5, 4⟩ },
      .updateCube (some "box") "box" { inflate := some 0.1, uvOffset := some ⟨16, 0⟩ } false,
      .deleteCube (some "old") "old",
      .deleteBone none "tail"]
  summary := ⟨1, 1, 1, 1, 1, 1, 2, 2, 6⟩
  revision := some "r1"

def legAndBox : Live Float where
  bones := [.named "leg"]
  cubes := [{ Live.Cube.named "box" with lower := ⟨-8, 0.1, -8⟩, mirror := some false }]

theorem wire_restored_armSwap : armSwap.isFinite = true ∧ armSwap.summary.fits = true ∧
    legAndBox.isFinite = true ∧ Plan.ofJson armSwap.toJson.sorted = .ok armSwap ∧
    Live.ofJson legAndBox.toJson.sorted = .ok legAndBox := by
  have hplan : armSwap.isFinite = true := by decide +kernel
  have hsummary : armSwap.summary.fits = true := by decide
  have hlive : legAndBox.isFinite = true := by decide +kernel
  refine ⟨hplan, hsummary, hlive, ?_, ?_⟩
  · exact wire_restored.1 armSwap hplan hsummary _
      (reordered_sorted _ (restores hplan hsummary).proper)
  · exact wire_restored.2 legAndBox hlive _ (reordered_sorted _ (Live.restores hlive).proper)

end Plan

end Armature
