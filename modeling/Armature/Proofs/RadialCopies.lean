import Mathlib
import Armature.Proofs.ExactArithmetic
import Armature.Proofs.Expansions

/-! Radial copies in exact arithmetic. A copy is as large as its source and as far along the axis,
it is at the radius from the axis, and its origin is as far from its center as that of the
source. -/

namespace Armature

/-- Roots that are exact, and sines and cosines that lie on the unit circle. -/
class Trig.Exact (K : Type) [Field K] [LinearOrder K] [Trig K] : Prop where
  sqrt_nonneg (a : K) : 0 ≤ a → 0 ≤ sqrt a
  sqrt_mul_self (a : K) : 0 ≤ a → sqrt a * sqrt a = a
  on_circle (degrees : K) : sin degrees * sin degrees + cos degrees * cos degrees = 1

noncomputable instance : Trig ℝ where
  sqrt := Real.sqrt
  sin degrees := Real.sin (degrees * (Real.pi / 180))
  cos degrees := Real.cos (degrees * (Real.pi / 180))

instance : Trig.Exact ℝ where
  sqrt_nonneg a _ := Real.sqrt_nonneg a
  sqrt_mul_self _ h := Real.mul_self_sqrt h
  on_circle degrees := by
    have hcircle := Real.sin_sq_add_cos_sq (degrees * (Real.pi / 180))
    rwa [sq, sq] at hcircle

namespace Axis

/-- The axis that a quarter turn about this one brings to the third one. -/
def next : Axis → Axis
  | x => y
  | y => z
  | z => x

/-- The axis beside this one on which copies start whose source is on this one. -/
def beside : Axis → Axis
  | x => y
  | y | z => x

end Axis

variable {K : Type} [Field K] [LinearOrder K] [FloorRing K] [Trig K]

namespace Vec3

/-- The image of a vector under a turn about an axis by the right-hand rule. -/
structure TurnsTo (a : Vec3 K) (axis : Axis) (degrees : K) (b : Vec3 K) : Prop where
  along : b.get axis = a.get axis
  first : b.get axis.next =
    a.get axis.next * Trig.cos degrees - a.get axis.next.next * Trig.sin degrees
  second : b.get axis.next.next =
    a.get axis.next * Trig.sin degrees + a.get axis.next.next * Trig.cos degrees

lemma turnsTo_turn (a : Vec3 K) (axis : Axis) (degrees : K) :
    a.TurnsTo axis degrees (a.turn axis (Scalar.sin degrees) (Scalar.cos degrees)) := by
  cases axis with
  | x => exact ⟨rfl, rfl, rfl⟩
  | y =>
    refine ⟨rfl, ?_, ?_⟩
    · change -a.x * Trig.sin degrees + a.z * Trig.cos degrees =
        a.z * Trig.cos degrees - a.x * Trig.sin degrees
      ring
    · exact add_comm _ _
  | z => exact ⟨rfl, rfl, rfl⟩

def square (a : Vec3 K) : K := a.x * a.x + a.y * a.y + a.z * a.z

/-- How far a point is from the line along `axis` through `pivot`. -/
def distance (point : Vec3 K) (axis : Axis) (pivot : Vec3 K) : K :=
  ((point - pivot).set axis Scalar.zero).length

protected lemma sub_zero (a : Vec3 K) : a - zero = a := by
  refine ext_get fun axis => ?_
  rw [get_sub, get_zero, Scalar.zero_eq, sub_zero]

protected lemma add_zero (a : Vec3 K) : a + zero = a := by
  refine ext_get fun axis => ?_
  rw [get_add, get_zero, Scalar.zero_eq, add_zero]

protected lemma add_sub_cancel_left (a b : Vec3 K) : a + b - a = b := by
  refine ext_get fun axis => ?_
  rw [get_sub, get_add, add_sub_cancel_left]

protected lemma add_sub_cancel_right (a b : Vec3 K) : a + b - b = a := by
  refine ext_get fun axis => ?_
  rw [get_sub, get_add, add_sub_cancel_right]

lemma get_turn_self (a : Vec3 K) (axis : Axis) (sin cos : K) :
    (a.turn axis sin cos).get axis = a.get axis := by
  cases axis <;> rfl

lemma set_turn (a : Vec3 K) (axis : Axis) (sin cos value : K) :
    (a.turn axis sin cos).set axis value = (a.set axis value).turn axis sin cos := by
  cases axis <;> rfl

lemma get_rotate_self (point : Vec3 K) (axis : Axis) (pivot : Vec3 K) (degrees : K) :
    (point.rotate axis pivot degrees).get axis = point.get axis := by
  rw [rotate, get_add, get_turn_self, get_sub, sub_add_cancel]

lemma rotate_zero (point : Vec3 K) (axis : Axis) (degrees : K) :
    point.rotate axis zero degrees =
      point.turn axis (Scalar.sin degrees) (Scalar.cos degrees) := by
  rw [rotate, Vec3.sub_zero, Vec3.add_zero]

lemma square_turn (a : Vec3 K) (axis : Axis) {sin cos : K} (h : sin * sin + cos * cos = 1) :
    (a.turn axis sin cos).square = a.square := by
  cases axis with
  | x =>
    simp only [square, turn]
    linear_combination (a.y * a.y + a.z * a.z) * h
  | y =>
    simp only [square, turn]
    linear_combination (a.x * a.x + a.z * a.z) * h
  | z =>
    simp only [square, turn]
    linear_combination (a.x * a.x + a.y * a.y) * h

lemma set_scale_set (a : Vec3 K) (axis : Axis) (factor : K) :
    ((a.set axis Scalar.zero).scale factor).set axis Scalar.zero =
      (a.set axis Scalar.zero).scale factor := by
  refine ext_get fun other => ?_
  rw [get_set, get_scale]
  split_ifs with h
  · rw [h, get_set_self, Scalar.zero_eq, zero_mul]
  · rfl

variable [IsStrictOrderedRing K]

lemma square_nonneg (a : Vec3 K) : 0 ≤ a.square :=
  add_nonneg (add_nonneg (mul_self_nonneg _) (mul_self_nonneg _)) (mul_self_nonneg _)

variable [Trig.Exact K]

lemma length_nonneg (a : Vec3 K) : 0 ≤ a.length := Trig.Exact.sqrt_nonneg _ a.square_nonneg

lemma length_mul_self (a : Vec3 K) : a.length * a.length = a.square :=
  Trig.Exact.sqrt_mul_self _ a.square_nonneg

lemma length_eq {a : Vec3 K} {l : K} (hl : 0 ≤ l) (h : a.square = l * l) : a.length = l :=
  (mul_self_inj a.length_nonneg hl).mp (a.length_mul_self.trans h)

lemma length_scale (a : Vec3 K) (factor : K) : (a.scale factor).length = a.length * |factor| := by
  refine length_eq (mul_nonneg a.length_nonneg (abs_nonneg factor)) ?_
  calc (a.scale factor).square = a.square * (factor * factor) := by
        simp only [square, scale]
        ring
    _ = a.length * a.length * (|factor| * |factor|) := by
        rw [length_mul_self, abs_mul_abs_self]
    _ = a.length * |factor| * (a.length * |factor|) := by ring

lemma length_turn (a : Vec3 K) (axis : Axis) (degrees : K) :
    (a.turn axis (Scalar.sin degrees) (Scalar.cos degrees)).length = a.length :=
  length_eq a.length_nonneg
    ((a.square_turn axis (Trig.Exact.on_circle degrees)).trans a.length_mul_self.symm)

lemma distance_rotate (point : Vec3 K) (axis : Axis) (pivot : Vec3 K) (degrees : K) :
    (point.rotate axis pivot degrees).distance axis pivot = point.distance axis pivot := by
  rw [distance, rotate, Vec3.add_sub_cancel_right, set_turn, length_turn]
  rfl

end Vec3

namespace Model

lemma fallbackDirection_set (axis : Axis) :
    (fallbackDirection axis).set axis Scalar.zero = (fallbackDirection axis : Vec3 K) := by
  cases axis <;> rfl

lemma get_fallbackDirection (axis other : Axis) :
    (fallbackDirection axis : Vec3 K).get other = if other = axis.beside then 1 else 0 := by
  rw [← Scalar.one_eq, ← Scalar.zero_eq]
  cases axis <;> cases other <;> rfl

namespace Cube

/-- How far from the axis the copies of a cube are to be. -/
def reach (source : Cube K) (r : Spec.Radial K) : K :=
  r.radius.elim (source.center.distance r.axis r.center) (|·|)

/-- The copy is the source moved to its reach and swung about the axis. -/
structure Swung (source : Cube K) (r : Spec.Radial K) (copy : Cube K) : Prop where
  extent : copy.extent = source.extent
  along : copy.center.get r.axis = source.center.get r.axis
  distance : copy.center.distance r.axis r.center = source.reach r
  arm_length : (copy.origin - copy.center).length = (source.origin - source.center).length
  arm_along : (copy.origin - copy.center).get r.axis = (source.origin - source.center).get r.axis
  copy : source.CopyOf copy

/-- Where the copies of a cube start: at the place of the source without a radius, and else at the
radius in the direction of the source, or in a fixed one if the source is on the axis. -/
structure StartsAt (source : Cube K) (r : Spec.Radial K) (start : Vec3 K) : Prop where
  along : start.get r.axis = source.center.get r.axis
  own : r.radius = none → start = source.center
  far : ∀ radius ∈ r.radius, 1 / 10 ^ 4 < source.center.distance r.axis r.center →
    ∀ other ≠ r.axis, start.get other - r.center.get other =
      (source.center.get other - r.center.get other) *
        (radius / source.center.distance r.axis r.center)
  near : ∀ radius ∈ r.radius, source.center.distance r.axis r.center ≤ 1 / 10 ^ 4 →
    ∀ other ≠ r.axis, start.get other - r.center.get other =
      if other = r.axis.beside then radius else 0

/-- The copy is the source turned by an angle from where the copies start. -/
structure TurnedBy (source : Cube K) (r : Spec.Radial K) (angle : K) (copy : Cube K) : Prop where
  center : ∃ start, source.StartsAt r start ∧
    (start - r.center).TurnsTo r.axis angle (copy.center - r.center)
  arm : (source.origin - source.center).TurnsTo r.axis angle (copy.origin - copy.center)
  angle : copy.rotation.get r.axis = source.rotation.get r.axis + angle
  other_angles : ∀ other ≠ r.axis, copy.rotation.get other = source.rotation.get other

/-- The copies stand about the axis, as many as ordered, in equal steps of a full turn. -/
structure Circle (source : Cube K) (r : Spec.Radial K) (copies : List (Cube K)) : Prop where
  count : copies.length = r.count
  ids : copies.map Cube.id = numbered (r.idStem.getD (source.id ++ "_radial")) r.count
  swung : ∀ copy ∈ copies, source.Swung r copy
  turned : ∀ (position : ℕ) copy, copies[position]? = some copy →
    source.TurnedBy r (r.startAngle.getD 0 + 360 / r.count * position) copy

lemma distance_le_iff (source : Cube K) (r : Spec.Radial K) :
    source.center.distance r.axis r.center ≤ 1 / 10 ^ 4 ↔ Scalar.lt Scalar.tolerance
      ((source.center - r.center).set r.axis Scalar.zero).length = false := by
  have htolerance : (Scalar.tolerance : K) = 1 / 10 ^ 4 := by
    rw [Scalar.tolerance, Scalar.ofDecimal_eq, Nat.cast_one]
  rw [← Bool.not_eq_true, Scalar.lt_iff, not_lt, htolerance]
  rfl

variable [IsStrictOrderedRing K]

lemma extent_turned (source : Cube K) (r : Spec.Radial K) (id : String) (angle : K) :
    (source.turned r id angle).extent = source.extent := by
  refine Vec3.ext_get fun axis => ?_
  simp only [turned, copy, Cube.extent, Vec3.extent, Vec3.get_sub, Vec3.get_add, Vec3.get_scale,
    Scalar.half_eq]
  ring

lemma center_turned (source : Cube K) (r : Spec.Radial K) (id : String) (angle : K) :
    (source.turned r id angle).center =
    (source.radialStart r).rotate r.axis r.center angle := by
  refine Vec3.ext_get fun axis => ?_
  simp only [turned, copy, Cube.center, Vec3.center, Vec3.get_sub, Vec3.get_add, Vec3.get_scale,
    Scalar.half_eq]
  ring

lemma arm_turned (source : Cube K) (r : Spec.Radial K) (id : String) (angle : K) :
    (source.turned r id angle).origin - (source.turned r id angle).center =
    (source.origin - source.center).turn r.axis (Scalar.sin angle) (Scalar.cos angle) := by
  rw [center_turned, ← Vec3.rotate_zero]
  exact Vec3.add_sub_cancel_left _ _

variable [Trig.Exact K]

lemma length_fallbackDirection (axis : Axis) : (fallbackDirection axis : Vec3 K).length = 1 := by
  refine Vec3.length_eq zero_le_one ?_
  cases axis <;>
    simp [fallbackDirection, Vec3.square, Vec3.set, Vec3.zero, Scalar.zero_eq, Scalar.one_eq]

lemma exists_planar (source : Cube K) (r : Spec.Radial K) : ∃ planar : Vec3 K,
    source.radialStart r =
      r.center + planar.set r.axis ((source.center - r.center).get r.axis) ∧
    (planar.set r.axis Scalar.zero).length = source.reach r := by
  have hset (a : Vec3 K) : (a.set r.axis Scalar.zero).set r.axis Scalar.zero =
      a.set r.axis Scalar.zero := a.set_set r.axis _ _
  cases hradius : r.radius with
  | none =>
    refine ⟨(source.center - r.center).set r.axis Scalar.zero, ?_, ?_⟩
    · simp only [radialStart, hradius]
    · rw [hset, reach, hradius]
      rfl
  | some radius =>
    have hreach : source.reach r = |radius| := by rw [reach, hradius, Option.elim_some]
    -- close to the axis, a fixed direction takes the place of the offset
    by_cases hfar : Scalar.lt Scalar.tolerance
        ((source.center - r.center).set r.axis Scalar.zero).length = true
    · refine ⟨((source.center - r.center).set r.axis Scalar.zero).scale
        (radius / ((source.center - r.center).set r.axis Scalar.zero).length), ?_, ?_⟩
      · simp only [radialStart, hradius, if_pos hfar]
      · have hpos := Scalar.tolerance_pos.trans (Scalar.lt_iff.mp hfar)
        rw [Vec3.set_scale_set, Vec3.length_scale, abs_div, abs_of_pos hpos, hreach,
          mul_div_cancel₀ _ hpos.ne']
    · refine ⟨(fallbackDirection r.axis).scale radius, ?_, ?_⟩
      · simp only [radialStart, hradius, if_neg hfar]
      · rw [← fallbackDirection_set, Vec3.set_scale_set, fallbackDirection_set, Vec3.length_scale,
          length_fallbackDirection, one_mul, hreach]

lemma get_radialStart (source : Cube K) (r : Spec.Radial K) :
    (source.radialStart r).get r.axis = source.center.get r.axis := by
  obtain ⟨planar, hstart, -⟩ := exists_planar source r
  rw [hstart, Vec3.get_add, Vec3.get_set_self, Vec3.get_sub, add_sub_cancel]

lemma distance_radialStart (source : Cube K) (r : Spec.Radial K) :
    (source.radialStart r).distance r.axis r.center = source.reach r := by
  obtain ⟨planar, hstart, hlength⟩ := exists_planar source r
  rw [hstart, Vec3.distance, Vec3.add_sub_cancel_left, Vec3.set_set, hlength]

lemma startsAt_radialStart (source : Cube K) (r : Spec.Radial K) :
    source.StartsAt r (source.radialStart r) where
  along := get_radialStart source r
  own hnone := by
    refine Vec3.ext_get fun other => ?_
    simp only [radialStart, hnone, Vec3.get_add, Vec3.get_set, Vec3.get_sub]
    split_ifs with h
    · rw [h, add_sub_cancel]
    · rw [add_sub_cancel]
  far radius hradius hfar other hother := by
    have hlt := (Bool.not_eq_false _).mp (mt (source.distance_le_iff r).mpr hfar.not_ge)
    simp only [radialStart, Option.mem_def.mp hradius, if_pos hlt, Vec3.get_add, Vec3.get_set,
      if_neg hother, Vec3.get_scale, Vec3.get_sub, add_sub_cancel_left]
    rfl
  near radius hradius hnear other hother := by
    have hlt := (source.distance_le_iff r).mp hnear
    simp only [radialStart, Option.mem_def.mp hradius, hlt, Bool.false_eq_true, if_false,
      Vec3.get_add, Vec3.get_set, if_neg hother, Vec3.get_scale, add_sub_cancel_left]
    rw [get_fallbackDirection, ite_mul, one_mul, zero_mul]

lemma turnedBy_turned (source : Cube K) (r : Spec.Radial K) (id : String) (angle : K) :
    source.TurnedBy r angle (source.turned r id angle) where
  center := by
    refine ⟨source.radialStart r, startsAt_radialStart source r, ?_⟩
    rw [center_turned, Vec3.rotate, Vec3.add_sub_cancel_right]
    exact Vec3.turnsTo_turn _ _ _
  arm := by
    rw [arm_turned]
    exact Vec3.turnsTo_turn _ _ _
  angle := Vec3.get_set_self ..
  other_angles other hother := (Vec3.get_set ..).trans (if_neg hother)

lemma swung_turned (source : Cube K) (r : Spec.Radial K) (id : String) (angle : K) :
    source.Swung r (source.turned r id angle) where
  extent := extent_turned source r id angle
  along := by rw [center_turned, Vec3.get_rotate_self, get_radialStart]
  distance := by rw [center_turned, Vec3.distance_rotate, distance_radialStart]
  arm_length := by rw [arm_turned, Vec3.length_turn]
  arm_along := by rw [arm_turned, Vec3.get_turn_self]
  copy := copyOf_copy ..

lemma circle_copies (source : Cube K) (r : Spec.Radial K) :
    source.Circle r (source.copies (.radial r)) where
  count := source.length_copies (.radial r)
  ids := source.map_id_copies (.radial r)
  swung copy hcopy := by
    obtain ⟨position, -, rfl⟩ := List.mem_map.mp hcopy
    exact swung_turned source r _ _
  turned position copy hcopy := by
    rw [copies, List.getElem?_map, Option.map_eq_some_iff] at hcopy
    obtain ⟨position, hposition, rfl⟩ := hcopy
    obtain ⟨-, rfl⟩ := List.getElem?_eq_some_iff.mp hposition
    have hangle : radialAngle r position = r.startAngle.getD 0 + 360 / r.count * position := by
      rw [radialAngle, Scalar.zero_eq, Scalar.ofNat_eq, Scalar.ofNat_eq, Scalar.ofNat_eq]
      rfl
    rw [List.getElem_range, ← hangle]
    exact turnedBy_turned source r _ _

end Cube

/-- What comes of a radial directive, whatever its source is: by itself, at its turn, and among
others. -/
structure RadialCopies (r : Spec.Radial K) : Prop where
  made : ∀ source : Cube K, source.Circle r (source.copies (.radial r))
  carried_out : ∀ maxCubes index (c : Copying K) source,
    Ready maxCubes c.cubes.toList (.radial r) source →
    ∃ c' copies, c.carryOut maxCubes (.radial r, index) = .ok c' ∧
      c'.cubes.toList = c.cubes.toList ++ copies ∧ source.Circle r copies
  among : ∀ maxCubes directives (cubes : Cubes K) c, expand maxCubes directives cubes = .ok c →
    .radial r ∈ directives → ∃ source ∈ c.cubes.toList, source.id = r.source ∧
      ∃ copies, source.Circle r copies ∧ ∀ copy ∈ copies, copy ∈ c.cubes.toList

variable [IsStrictOrderedRing K] [Trig.Exact K]

/-- Radial copies are as rigid and as far from the axis for every angle, with a radius and without
one, and also where the source is on the axis. -/
theorem radial_rigid (r : Spec.Radial K) : RadialCopies r where
  made source := source.circle_copies r
  carried_out maxCubes index c source hready := by
    obtain ⟨c', hc, hcubes, -⟩ := exists_carryOut index hready (made_copies source _)
    exact ⟨c', _, hc, hcubes, source.circle_copies r⟩
  among _ _ _ _ h hr := by
    obtain ⟨source, hsource, hid, hcopies⟩ := exists_source_of_expand h hr rfl
    exact ⟨source, hsource, hid, _, source.circle_copies r, hcopies⟩

noncomputable def candle : Cube ℝ := Cube.ofBox "candle" "wreath" ⟨-1, 0, -1⟩ ⟨1, 6, 1⟩

noncomputable def candles : Spec.Radial ℝ :=
  { source := "candle", count := 5, axis := .y, center := ⟨0, 0, 0⟩, radius := some 8 }

theorem radial_rigid_candles : (candle.copies (.radial candles)).length = 5 ∧
    ∀ copy ∈ candle.copies (.radial candles), copy.extent = candle.extent ∧
      copy.center.get .y = candle.center.get .y ∧ copy.center.distance .y ⟨0, 0, 0⟩ = 8 := by
  have hcopies := (radial_rigid candles).made candle
  refine ⟨hcopies.count, fun copy hcopy => ?_⟩
  have hswung := hcopies.swung copy hcopy
  exact ⟨hswung.extent, hswung.along, hswung.distance.trans (abs_of_pos (by norm_num))⟩

end Model

end Armature
