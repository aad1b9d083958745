import Armature.Geometry.Vec
import Mathlib.Tactic

/-! Nearness on binary floating point: a finite coordinate is near itself. A number that is not
finite is not, since an infinity has no difference from itself. -/

namespace Armature

section

open Float.Model

lemma sub_self_of_finite {x : UnpackedFloat} (h : x.isFinite = true) :
    UnpackedFloat.sub Format.binary64 x x = .zero .positive := by
  cases x with
  | infinity s => cases h
  | notANumber => cases h
  | zero s => cases s <;> rfl
  | finite s m e hm =>
    change UnpackedFloat.normalize _ (_ - _) _ _ = _
    rw [Int.sub_self]
    rfl

end

lemma Scalar.near_self {x : Float} (h : Scalar.isFinite x = true) : Scalar.near x x = true := by
  have hx : x - x = .ofModel (.pack (.zero .positive)) := by
    change Float.ofModel _ = _
    congr 1
    exact congrArg Float.Model.pack (sub_self_of_finite h)
  change Scalar.le (Float.abs (x - x)) Scalar.tolerance = true
  rw [hx]
  decide +kernel

lemma Vec3.near_self {a : Vec3 Float} (h : a.isFinite = true) : a.near a = true := by
  simp only [Vec3.isFinite, Vec3.toList, List.all_cons, List.all_nil, Bool.and_true,
    Bool.and_eq_true] at h
  obtain ⟨hx, hy, hz⟩ := h
  simp only [Vec3.near, Vec3.forall₂, Scalar.near_self hx, Scalar.near_self hy,
    Scalar.near_self hz, Bool.and_self]

lemma Vec2.near_self {a : Vec2 Float} (h : a.isFinite = true) : a.near a = true := by
  simp only [Vec2.isFinite, Vec2.toList, List.all_cons, List.all_nil, Bool.and_true,
    Bool.and_eq_true] at h
  obtain ⟨hu, hv⟩ := h
  simp only [Vec2.near, Scalar.near_self hu, Scalar.near_self hv, Bool.and_self]

end Armature
