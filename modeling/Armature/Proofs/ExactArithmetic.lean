import Mathlib
import Armature.Geometry.Bounds
import Armature.Geometry.Motion

/-! Coordinates in arithmetic that does not round: any ordered field whose numbers have nearest
whole numbers. What is computed on coordinates comes to the operations of the field. -/

namespace Armature

/-- Square roots, and sines and cosines of angles in degrees, whatever they may be. -/
class Trig (K : Type) where
  sqrt (a : K) : K
  sin (degrees : K) : K
  cos (degrees : K) : K

section Rounding

variable {K : Type} [Field K] [LinearOrder K] [FloorRing K]

/-- The nearest whole number; a half goes away from zero. -/
def roundAway (a : K) : K := if 0 ≤ a then round a else -round (-a)

lemma exists_roundAway_eq (a : K) : ∃ n : ℤ, roundAway a = n := by
  unfold roundAway
  split_ifs
  · exact ⟨round a, rfl⟩
  · exact ⟨-round (-a), (Int.cast_neg _).symm⟩

variable [IsStrictOrderedRing K]

lemma roundAway_near (a : K) : |roundAway a - a| ≤ 1 / 2 := by
  unfold roundAway
  split_ifs
  · rw [abs_sub_comm]
    exact abs_sub_round a
  · have hneg : -(round (-a) : K) - a = -a - round (-a) := by ring
    rw [hneg]
    exact abs_sub_round (-a)

lemma round_mono {a b : K} (h : a ≤ b) : round a ≤ round b := by
  rw [round_eq, round_eq]
  exact Int.floor_mono (add_le_add_left h _)

lemma round_nonneg {a : K} (h : 0 ≤ a) : 0 ≤ round a := by
  rw [← round_zero (α := K)]
  exact round_mono h

lemma roundAway_mono : Monotone (roundAway (K := K)) := by
  intro a b h
  unfold roundAway
  split_ifs with ha hb hb
  · exact Int.cast_le.mpr (round_mono h)
  · exact absurd (ha.trans h) hb
  · have ha' : (0 : K) ≤ round (-a) :=
      Int.cast_nonneg (round_nonneg (neg_nonneg.mpr (not_le.mp ha).le))
    have hb' : (0 : K) ≤ round b := Int.cast_nonneg (round_nonneg hb)
    exact (neg_nonpos.mpr ha').trans hb'
  · exact neg_le_neg (Int.cast_le.mpr (round_mono (neg_le_neg h)))

end Rounding

namespace Scalar

variable {K : Type} [Field K] [LinearOrder K] [FloorRing K] [Trig K]

instance (priority := low) exact : Scalar K where
  ofDecimal digits places := digits / 10 ^ places
  lt a b := decide (a < b)
  le a b := decide (a ≤ b)
  eq a b := decide (a = b)
  abs a := |a|
  round := roundAway
  sqrt := Trig.sqrt
  sin := Trig.sin
  cos := Trig.cos
  isFinite _ := true

lemma ofDecimal_eq (digits places : ℕ) : (ofDecimal digits places : K) = digits / 10 ^ places := rfl

lemma ofNat_eq (n : ℕ) : (ofNat n : K) = n := by
  rw [ofNat, ofDecimal_eq, pow_zero, div_one]

lemma zero_eq : (zero : K) = 0 := (ofNat_eq 0).trans Nat.cast_zero

lemma one_eq : (one : K) = 1 := (ofNat_eq 1).trans Nat.cast_one

lemma two_eq : (two : K) = 2 := (ofNat_eq 2).trans Nat.cast_ofNat

lemma half_eq [IsStrictOrderedRing K] : (half : K) = 1 / 2 := by
  rw [half, ofDecimal_eq]
  norm_num

lemma tolerance_pos [IsStrictOrderedRing K] : 0 < (tolerance : K) := by
  rw [tolerance, ofDecimal_eq]
  positivity

lemma le_iff {a b : K} : le a b = true ↔ a ≤ b := decide_eq_true_iff

lemma lt_iff {a b : K} : lt a b = true ↔ a < b := decide_eq_true_iff

lemma eq_iff {a b : K} : eq a b = true ↔ a = b := decide_eq_true_iff

lemma least_eq (a b : K) : least a b = min a b := by
  have hself : eq a a = true := eq_iff.mpr rfl
  simp only [least, hself, Bool.not_true, Bool.or_false, lt_iff]
  split_ifs with h
  · exact (min_eq_right h.le).symm
  · exact (min_eq_left (not_lt.mp h)).symm

lemma greatest_eq (a b : K) : greatest a b = max a b := by
  have hself : eq a a = true := eq_iff.mpr rfl
  simp only [greatest, hself, Bool.not_true, Bool.or_false, lt_iff]
  split_ifs with h
  · exact (max_eq_right h.le).symm
  · exact (max_eq_left (not_lt.mp h)).symm

lemma reflect_eq (a offset : K) : reflect a offset = 2 * offset - a := by
  rw [reflect, two_eq]

lemma clamp_eq (a low high : K) : clamp a low high = min (max a low) high := by
  have hraised : (if lt a low then low else a) = max a low := by
    simp only [lt_iff]
    split_ifs with h
    · exact (max_eq_right h.le).symm
    · exact (max_eq_left (not_lt.mp h)).symm
  have hclamp : clamp a low high = if lt high (max a low) then high else max a low := by
    rw [← hraised]
    rfl
  simp only [hclamp, lt_iff]
  split_ifs with h
  · exact (min_eq_right h.le).symm
  · exact (min_eq_left (not_lt.mp h)).symm

lemma snap_eq {grid : K} (h : 0 < grid) (a : K) : snap a grid = roundAway (a / grid) * grid := by
  have hgrid : ¬ le grid zero = true := by
    rw [le_iff, zero_eq]
    exact not_le.mpr h
  rw [snap, if_neg hgrid]
  change (if eq (roundAway (a / grid) * grid) zero then zero else roundAway (a / grid) * grid) = _
  simp only [eq_iff]
  split_ifs with hzero
  · exact hzero.symm
  · rfl

end Scalar

/-- Rational values, where there are any: roots of squares, sines and cosines of quarter turns. -/
instance : Trig ℚ where
  sqrt a := Nat.sqrt a.num.natAbs / Nat.sqrt a.den
  sin degrees :=
    let turn := Int.fract (degrees / 360)
    if turn = 1 / 4 then 1 else if turn = 3 / 4 then -1 else 0
  cos degrees :=
    let turn := Int.fract (degrees / 360)
    if turn = 0 then 1 else if turn = 1 / 2 then -1 else 0

namespace Vec3

variable {K : Type}

lemma ext_get {a b : Vec3 K} (h : ∀ axis, a.get axis = b.get axis) : a = b := by
  obtain ⟨x, y, z⟩ := a
  obtain ⟨x', y', z'⟩ := b
  obtain rfl : x = x' := h .x
  obtain rfl : y = y' := h .y
  obtain rfl : z = z' := h .z
  rfl

lemma get_set (a : Vec3 K) (axis other : Axis) (value : K) :
    (a.set axis value).get other = if other = axis then value else a.get other := by
  cases axis <;> cases other <;> rfl

lemma get_set_self (a : Vec3 K) (axis : Axis) (value : K) :
    (a.set axis value).get axis = value := by
  cases axis <;> rfl

lemma set_get (a : Vec3 K) (axis : Axis) : a.set axis (a.get axis) = a := by
  cases axis <;> rfl

lemma set_set (a : Vec3 K) (axis : Axis) (value value' : K) :
    (a.set axis value).set axis value' = a.set axis value' := by
  cases axis <;> rfl

variable [Scalar K]

lemma get_zero (axis : Axis) : (zero : Vec3 K).get axis = Scalar.zero := by
  cases axis <;> rfl

lemma get_add (a b : Vec3 K) (axis : Axis) : (a + b).get axis = a.get axis + b.get axis := by
  cases axis <;> rfl

lemma get_sub (a b : Vec3 K) (axis : Axis) : (a - b).get axis = a.get axis - b.get axis := by
  cases axis <;> rfl

lemma get_scale (a : Vec3 K) (factor : K) (axis : Axis) :
    (a.scale factor).get axis = a.get axis * factor := by
  cases axis <;> rfl

end Vec3

end Armature
