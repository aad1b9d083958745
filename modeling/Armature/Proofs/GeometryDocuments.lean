import Armature.Geometry.Json
import Armature.Proofs.BinaryFloats
import Armature.Proofs.ReadingOrders

/-! Vectors, axes and boxes are read back from what is written of them, in any order of the members,
and what is read of a value is finite. -/

namespace Armature

open Json

lemma Number.isFinite_toFloat {n : Number} (h : n.isProper = true) : n.toFloat.isFinite = true := by
  cases n with
  | integer n =>
    obtain ⟨hlow, hhigh⟩ := of_decide_eq_true h
    exact (toFloat_integer hlow hhigh).1
  | float x => exact h

lemma Json.float_yields : Yields Reader.float (·.isFinite = true) := by
  intro v hv x hx
  match v, hx with
  | .number n, hx =>
    cases hx
    exact n.isFinite_toFloat hv

namespace Json.Reader

variable {σ : Type} {fields : List (FieldReader σ)} {blank : σ}

/-- A record as an array of its fields only. -/
def row (fields : List (FieldReader σ)) (blank : σ) : Reader σ
  | .array items closed => positions closed fields blank items
  | other => refuse other

lemma row_orderless (h : ∀ f ∈ fields, ∀ s, Orderless fun o => f.read o s) :
    Orderless (row fields blank) := by
  intro v w hv hvw t ht
  rcases reordered_cases hvw with rfl | ⟨as, bs, rfl, rfl, hitems⟩ | ⟨as, bs, rfl, -⟩
  · exact ht
  · exact positions_reordered h hv hitems ht
  · cases ht

lemma row_yields {Q : σ → Prop} (h : ∀ f ∈ fields, f.Keeps Q)
    (hblank : Q blank) : Yields (row fields blank) Q := by
  intro v hv t ht
  match v, ht with
  | .array items, ht => exact positions_yield h hv hblank ht

end Json.Reader

namespace Vec3

lemma restores {a : Vec3 Float} (h : a.isFinite = true) : Restores reader toJson a := by
  obtain ⟨hx, hy, hz⟩ : a.x.isFinite = true ∧ a.y.isFinite = true ∧ a.z.isFinite = true := by
    simpa [isFinite, toList, Scalar.isFinite] using h
  have hwrite :
      a.toJson = .array [.number (.float a.x), .number (.float a.y), .number (.float a.z)] := by
    simp [toJson, toList, ofFloat, hx, hy, hz]
  refine restores_of_ne_null ?_ (by simp [hwrite, Outline.ofJson]) (by rw [hwrite]; rfl)
  simp [hwrite, isProper, areProper, Number.isProper, hx, hy, hz]

@[simp]
lemma orderless : Orderless reader := Reader.row_orderless (by simp [fields, FieldReader.mandatory])

lemma yields : Yields reader (·.isFinite = true) := by
  refine Reader.row_yields ?_ (by decide +kernel)
  simp only [isFinite, toList, List.all_cons, List.all_nil, Bool.and_true, Bool.and_eq_true]
  simp only [fields, List.forall_mem_cons]
  exact ⟨mandatory_keeps float_yields fun _ _ hs hx => ⟨hx, hs.2⟩,
    mandatory_keeps float_yields fun _ _ hs hy => ⟨hs.1, hy, hs.2.2⟩,
    mandatory_keeps float_yields fun _ _ hs hz => ⟨hs.1, hs.2.1, hz⟩, fun _ h => nomatch h⟩

end Vec3

namespace Vec2

lemma restores {a : Vec2 Float} (h : a.isFinite = true) : Restores reader toJson a := by
  obtain ⟨hu, hv⟩ : a.u.isFinite = true ∧ a.v.isFinite = true := by
    simpa [isFinite, toList, Scalar.isFinite] using h
  have hwrite : a.toJson = .array [.number (.float a.u), .number (.float a.v)] := by
    simp [toJson, toList, ofFloat, hu, hv]
  refine restores_of_ne_null ?_ (by simp [hwrite, Outline.ofJson]) (by rw [hwrite]; rfl)
  simp [hwrite, isProper, areProper, Number.isProper, hu, hv]

@[simp]
lemma orderless : Orderless reader := Reader.row_orderless (by simp [fields, FieldReader.mandatory])

lemma yields : Yields reader (·.isFinite = true) := by
  refine Reader.row_yields ?_ (by decide +kernel)
  simp only [isFinite, toList, List.all_cons, List.all_nil, Bool.and_true, Bool.and_eq_true]
  simp only [fields, List.forall_mem_cons]
  exact ⟨mandatory_keeps float_yields fun _ _ hs hu => ⟨hu, hs.2⟩,
    mandatory_keeps float_yields fun _ _ hs hv => ⟨hs.1, hv⟩, fun _ h => nomatch h⟩

end Vec2

lemma Axis.restores (axis : Axis) : Restores reader toJson axis :=
  choice_restores (by cases axis <;> rfl)

@[simp]
lemma Axis.orderless : Orderless Axis.reader := choice_orderless ofName?

namespace Bounds

variable {K : Type} [Scalar K]

def isFinite (b : Bounds K) : Bool := b.min.isFinite && b.max.isFinite

lemma restores {b : Bounds Float} (h : b.isFinite = true) : Restores reader toJson b := by
  obtain ⟨hmin, hmax⟩ := Bool.and_eq_true_iff.mp h
  exact record_restores (by decide) rfl
    (.mandatory (Vec3.restores hmin) (.mandatory (Vec3.restores hmax) (.done b)))

lemma settable : Settable fields where
  commuting := by simp [fields, FieldReader.mandatory]
  orderless := by simp [fields, FieldReader.mandatory]

@[simp]
lemma orderless : Orderless reader := record_orderless settable .refuse _

lemma yields : Yields reader (·.isFinite = true) := by
  refine record_yields ?_ (by decide +kernel)
  simp only [isFinite, Bool.and_eq_true]
  simp only [fields, List.forall_mem_cons]
  exact ⟨mandatory_keeps Vec3.yields fun _ _ hs hmin => ⟨hmin, hs.2⟩,
    mandatory_keeps Vec3.yields fun _ _ hs hmax => ⟨hs.1, hmax⟩, fun _ h => nomatch h⟩

end Bounds

end Armature
