import Armature.Proofs.GeometryDocuments
import Armature.Spec.Json

/-! The entries of a spec are read back from what is written of them, in any order of the members. -/

namespace Armature

open Json

lemma IdPolicy.restores (policy : IdPolicy) : Restores reader (fun p => .text p.name) policy :=
  choice_restores (by cases policy <;> rfl)

@[simp]
lemma IdPolicy.orderless : Orderless reader := choice_orderless ofName?

lemma Template.restores (template : Template) : Restores reader (fun t => .text t.name) template :=
  choice_restores (by cases template <;> rfl)

@[simp]
lemma Template.orderless : Orderless reader := choice_orderless ofName?

namespace Spec

section Finite

variable {K : Type} [Scalar K]

def Policy.isFinite (p : Policy K) : Bool :=
  p.snapGrid.all Scalar.isFinite && p.bounds.all Bounds.isFinite

def Bone.isFinite (b : Bone K) : Bool :=
  b.pivot.all Vec3.isFinite && b.rotation.all Vec3.isFinite && b.scale.all Vec3.isFinite

def Cube.isFinite (c : Cube K) : Bool :=
  c.lower.all Vec3.isFinite && c.upper.all Vec3.isFinite && c.center.all Vec3.isFinite &&
    c.size.all Vec3.isFinite && c.origin.all Vec3.isFinite && c.rotation.all Vec3.isFinite &&
    c.inflate.all Scalar.isFinite && c.uvOffset.all Vec2.isFinite

def Anchor.isFinite (a : Anchor K) : Bool := a.offset.all Vec3.isFinite

end Finite

namespace Policy

lemma restores {p : Policy Float} (h : p.isFinite = true) : Restores reader toJson p := by
  simp only [isFinite, Bool.and_eq_true, Option.all_eq_true] at h
  exact record_restores (by decide) rfl <|
    .defaulted (IdPolicy.restores p.idPolicy) <|
    .unset rfl (fun parent _ => text_restores parent) <|
    .defaulted (bool_restores p.enforceRoot) <|
    .unset rfl (fun grid hgrid => float_restores (h.1 grid hgrid)) <|
    .unset rfl (fun bounds hbounds => Bounds.restores (h.2 bounds hbounds)) <|
    .done p

lemma settable : Settable fields where
  commuting := by simp [fields, FieldReader.unset, FieldReader.defaulted]
  orderless := by simp [fields, FieldReader.unset, FieldReader.defaulted]

@[simp]
lemma orderless : Orderless reader := record_orderless settable .refuse _

lemma yields : Yields reader (·.isFinite = true) := by
  refine record_yields ?_ rfl
  simp only [isFinite, Bool.and_eq_true, Option.all_eq_true]
  simp only [fields, List.forall_mem_cons]
  exact ⟨defaulted_keeps yields_true fun _ _ hs _ => hs,
    unset_keeps yields_true fun _ _ hs _ => hs,
    defaulted_keeps yields_true fun _ _ hs _ => hs,
    unset_keeps float_yields fun _ _ hs hgrid => ⟨hgrid, hs.2⟩,
    unset_keeps Bounds.yields fun _ _ hs hbounds => ⟨hs.1, hbounds⟩, fun _ h => nomatch h⟩

end Policy

namespace Bone

lemma restores {b : Bone Float} (h : b.isFinite = true) : Restores reader toJson b := by
  simp only [isFinite, Bool.and_eq_true, and_assoc, Option.all_eq_true] at h
  obtain ⟨hpivot, hrotation, hscale⟩ := h
  exact record_restores (by decide) rfl <|
    .unset rfl (fun id _ => text_restores id) <|
    .unset rfl (fun name _ => text_restores name) <|
    .unset rfl (fun parent _ => text_restores parent) <|
    .unset rfl (fun pivot hp => Vec3.restores (hpivot pivot hp)) <|
    .unset rfl (fun anchor _ => text_restores anchor) <|
    .unset rfl (fun rotation hr => Vec3.restores (hrotation rotation hr)) <|
    .unset rfl (fun scale hs => Vec3.restores (hscale scale hs)) <|
    .unset rfl (fun visibility _ => bool_restores visibility) <|
    .done b

lemma settable : Settable fields where
  commuting := by simp [fields, FieldReader.unset, FieldReader.defaulted]
  orderless := by simp [fields, FieldReader.unset, FieldReader.defaulted]

@[simp]
lemma orderless : Orderless reader := record_orderless settable .refuse _

lemma yields : Yields reader (·.isFinite = true) := by
  refine record_yields ?_ rfl
  simp only [isFinite, Bool.and_eq_true, and_assoc, Option.all_eq_true]
  simp only [fields, List.forall_mem_cons]
  exact ⟨unset_keeps yields_true fun _ _ hs _ => hs,
    unset_keeps yields_true fun _ _ hs _ => hs,
    unset_keeps yields_true fun _ _ hs _ => hs,
    unset_keeps Vec3.yields fun _ _ hs hpivot => ⟨hpivot, hs.2⟩,
    unset_keeps yields_true fun _ _ hs _ => hs,
    unset_keeps Vec3.yields fun _ _ hs hrotation => ⟨hs.1, hrotation, hs.2.2⟩,
    unset_keeps Vec3.yields fun _ _ hs hscale => ⟨hs.1, hs.2.1, hscale⟩,
    unset_keeps yields_true fun _ _ hs _ => hs, fun _ h => nomatch h⟩

end Bone

namespace Cube

lemma restores {c : Cube Float} (h : c.isFinite = true) : Restores reader toJson c := by
  simp only [isFinite, Bool.and_eq_true, and_assoc, Option.all_eq_true] at h
  obtain ⟨hlower, hupper, hcenter, hsize, horigin, hrotation, hinflate, huvOffset⟩ := h
  exact record_restores (by decide) rfl <|
    .unset rfl (fun id _ => text_restores id) <|
    .unset rfl (fun name _ => text_restores name) <|
    .unset rfl (fun parent _ => text_restores parent) <|
    .unset rfl (fun lower hl => Vec3.restores (hlower lower hl)) <|
    .unset rfl (fun upper hu => Vec3.restores (hupper upper hu)) <|
    .unset rfl (fun center hc => Vec3.restores (hcenter center hc)) <|
    .unset rfl (fun size hs => Vec3.restores (hsize size hs)) <|
    .unset rfl (fun origin ho => Vec3.restores (horigin origin ho)) <|
    .unset rfl (fun anchor _ => text_restores anchor) <|
    .unset rfl (fun anchor _ => text_restores anchor) <|
    .unset rfl (fun rotation hr => Vec3.restores (hrotation rotation hr)) <|
    .unset rfl (fun inflate hi => float_restores (hinflate inflate hi)) <|
    .unset rfl (fun mirror _ => bool_restores mirror) <|
    .unset rfl (fun visibility _ => bool_restores visibility) <|
    .unset rfl (fun boxUv _ => bool_restores boxUv) <|
    .unset rfl (fun uvOffset hu => Vec2.restores (huvOffset uvOffset hu)) <|
    .done c

lemma settable : Settable fields where
  commuting := by simp [fields, FieldReader.unset, FieldReader.defaulted]
  orderless := by simp [fields, FieldReader.unset, FieldReader.defaulted]

@[simp]
lemma orderless : Orderless reader := record_orderless settable .refuse _

lemma yields : Yields reader (·.isFinite = true) := by
  refine record_yields ?_ rfl
  simp only [isFinite, Bool.and_eq_true, and_assoc, Option.all_eq_true]
  simp only [fields, List.forall_mem_cons]
  exact ⟨unset_keeps yields_true fun _ _ hs _ => hs,
    unset_keeps yields_true fun _ _ hs _ => hs,
    unset_keeps yields_true fun _ _ hs _ => hs,
    unset_keeps Vec3.yields fun _ _ ⟨_, hs⟩ h => ⟨h, hs⟩,
    unset_keeps Vec3.yields fun _ _ ⟨h₁, _, hs⟩ h => ⟨h₁, h, hs⟩,
    unset_keeps Vec3.yields fun _ _ ⟨h₁, h₂, _, hs⟩ h => ⟨h₁, h₂, h, hs⟩,
    unset_keeps Vec3.yields fun _ _ ⟨h₁, h₂, h₃, _, hs⟩ h => ⟨h₁, h₂, h₃, h, hs⟩,
    unset_keeps Vec3.yields fun _ _ ⟨h₁, h₂, h₃, h₄, _, hs⟩ h => ⟨h₁, h₂, h₃, h₄, h, hs⟩,
    unset_keeps yields_true fun _ _ hs _ => hs,
    unset_keeps yields_true fun _ _ hs _ => hs,
    unset_keeps Vec3.yields fun _ _ ⟨h₁, h₂, h₃, h₄, h₅, _, hs⟩ h => ⟨h₁, h₂, h₃, h₄, h₅, h, hs⟩,
    unset_keeps float_yields fun _ _ ⟨h₁, h₂, h₃, h₄, h₅, h₆, _, hs⟩ h =>
      ⟨h₁, h₂, h₃, h₄, h₅, h₆, h, hs⟩,
    unset_keeps yields_true fun _ _ hs _ => hs,
    unset_keeps yields_true fun _ _ hs _ => hs,
    unset_keeps yields_true fun _ _ hs _ => hs,
    unset_keeps Vec2.yields fun _ _ ⟨h₁, h₂, h₃, h₄, h₅, h₆, h₇, _⟩ h =>
      ⟨h₁, h₂, h₃, h₄, h₅, h₆, h₇, h⟩, fun _ h => nomatch h⟩

end Cube

namespace Target

def boneRecord : Reader String := Reader.record boneFields .refuse ""

def cubeRecord : Reader String := Reader.record cubeFields .refuse ""

lemma boneRecord_orderless : Orderless boneRecord :=
  record_orderless ⟨by simp [boneFields], by simp [boneFields, FieldReader.mandatory]⟩ _ _

lemma cubeRecord_orderless : Orderless cubeRecord :=
  record_orderless ⟨by simp [cubeFields], by simp [cubeFields, FieldReader.mandatory]⟩ _ _

lemma reader_ok {v : Json} {target : Target} : reader (.ofJson v) = .ok target ↔
    (∃ id, boneRecord (.ofJson v) = .ok id ∧ target = bone id) ∨
      (∀ id, boneRecord (.ofJson v) ≠ .ok id) ∧
        ∃ id, cubeRecord (.ofJson v) = .ok id ∧ target = cube id := by
  rw [reader, raw_ofJson, bind_ok_left]
  unfold boneRecord cubeRecord
  cases Reader.record boneFields .refuse "" (.ofJson v) with
  | ok id => simp [pure, Except.pure, eq_comm]
  | error e =>
    cases Reader.record cubeFields .refuse "" (.ofJson v) <;> simp [pure, Except.pure, eq_comm]

lemma boneRecord_restores (id : String) : Restores boneRecord (fun id => toJson (bone id)) id :=
  record_restores (by decide) rfl <| .mandatory (text_restores id) <| .done id

lemma cubeRecord_restores (id : String) : Restores cubeRecord (fun id => toJson (cube id)) id :=
  record_restores (by decide) rfl <| .mandatory (text_restores id) <| .done id

lemma restores (target : Target) : Restores reader toJson target := by
  cases target with
  | bone id =>
    have hid := boneRecord_restores id
    exact restores_of_ne_null hid.proper (by simp [toJson, record, Outline.ofJson])
      (reader_ok.mpr (.inl ⟨id, hid.read, rfl⟩))
  | cube id =>
    have hid := cubeRecord_restores id
    exact restores_of_ne_null hid.proper (by simp [toJson, record, Outline.ofJson])
      (reader_ok.mpr (.inr ⟨(fun _ h => nomatch h), id, hid.read, rfl⟩))

@[simp]
lemma orderless : Orderless reader := by
  intro v w hv hvw target h
  have hw : w.isProper = true := proper_of_reordered v w hv hvw
  have hwv : Reordered w v := hvw.symm (fun _ _ => Eq.symm) v w
  rcases reader_ok.mp h with ⟨id, hid, htarget⟩ | ⟨hbone, id, hid, htarget⟩
  · exact reader_ok.mpr (.inl ⟨id, boneRecord_orderless hv hvw hid, htarget⟩)
  · exact reader_ok.mpr (.inr ⟨fun other hother => hbone other (boneRecord_orderless hw hwv hother), id,
      cubeRecord_orderless hv hvw hid, htarget⟩)

end Target

namespace Anchor

lemma restores {a : Anchor Float} (h : a.isFinite = true) : Restores reader toJson a := by
  simp only [isFinite, Option.all_eq_true] at h
  exact record_restores (by decide) rfl <|
    .mandatory (text_restores a.id) <|
    .mandatory (Target.restores a.target) <|
    .unset rfl (fun offset ho => Vec3.restores (h offset ho)) <|
    .done a

lemma settable : Settable fields where
  commuting := by simp [fields, FieldReader.unset, FieldReader.defaulted, FieldReader.mandatory]
  orderless := by simp [fields, FieldReader.unset, FieldReader.defaulted, FieldReader.mandatory]

@[simp]
lemma orderless : Orderless reader := record_orderless settable .refuse _

lemma yields : Yields reader (·.isFinite = true) := by
  refine record_yields ?_ rfl
  simp only [isFinite, Option.all_eq_true]
  simp only [fields, List.forall_mem_cons]
  exact ⟨mandatory_keeps yields_true fun _ _ hs _ => hs,
    mandatory_keeps yields_true fun _ _ hs _ => hs,
    unset_keeps Vec3.yields fun _ _ _ hoffset => hoffset, fun _ h => nomatch h⟩

end Anchor

end Spec

end Armature
