import Mathlib
import Armature.Proofs.ExactArithmetic
import Armature.Proofs.Expansions

/-! Mirrors in exact arithmetic. A mirror makes the reflection of its source, and one more mirror in
the same plane brings the copy back to where the source is. -/

namespace Armature

variable {K : Type} [Field K] [LinearOrder K] [FloorRing K] [Trig K]

lemma Scalar.reflect_reflect (a offset : K) : reflect (reflect a offset) offset = a := by
  rw [reflect_eq, reflect_eq]
  ring

lemma Scalar.reflect_le [IsStrictOrderedRing K] {a b : K} (h : a ≤ b) (offset : K) :
    reflect b offset ≤ reflect a offset := by
  rw [reflect_eq, reflect_eq]
  exact sub_le_sub_left h _

namespace Vec3

lemma get_reflect (a : Vec3 K) (axis other : Axis) (offset : K) :
    (a.reflect axis offset).get other =
      if other = axis then Scalar.reflect (a.get axis) offset else a.get other :=
  a.get_set axis other _

/-- A point and its image in the plane at `offset` across `axis`. -/
structure ReflectsTo (a : Vec3 K) (axis : Axis) (offset : K) (b : Vec3 K) : Prop where
  across : b.get axis = 2 * offset - a.get axis
  along : ∀ other ≠ axis, b.get other = a.get other

lemma reflectsTo_reflect (a : Vec3 K) (axis : Axis) (offset : K) :
    a.ReflectsTo axis offset (a.reflect axis offset) where
  across := by rw [get_reflect, if_pos rfl, Scalar.reflect_eq]
  along other hother := by rw [get_reflect, if_neg hother]

lemma reflect_reflect (a : Vec3 K) (axis : Axis) (offset : K) :
    (a.reflect axis offset).reflect axis offset = a := by
  refine ext_get fun other => ?_
  rw [get_reflect, get_reflect, if_pos rfl, Scalar.reflect_reflect, get_reflect]
  split_ifs with h
  · rw [h]
  · rfl

lemma get_reflectAngles (a : Vec3 K) (axis other : Axis) :
    (a.reflectAngles axis).get other = if other = axis then a.get other else -a.get other := by
  have hflip : (a.reflectAngles axis).get other =
      if other = axis || Scalar.eq (a.get other) Scalar.zero then a.get other
      else -a.get other := by
    cases other <;> rfl
  rw [hflip]
  simp only [Bool.or_eq_true, decide_eq_true_eq, Scalar.eq_iff, Scalar.zero_eq]
  split_ifs with h h' h'
  · rfl
  · rw [h.resolve_left h', neg_zero]
  · exact absurd (.inl h') h
  · rfl

lemma reflectAngles_reflectAngles (a : Vec3 K) (axis : Axis) :
    (a.reflectAngles axis).reflectAngles axis = a := by
  refine ext_get fun other => ?_
  rw [get_reflectAngles, get_reflectAngles]
  split_ifs
  · rfl
  · exact neg_neg _

end Vec3

namespace Model

variable {source : Cube K} {m m' : Spec.Mirror K}

namespace Cube

/-- The image is the reflection of the source in the plane at `offset` across `axis`: there the lower
corner is that of the upper one, and angles about other axes change their sign. -/
structure Reflects (source : Cube K) (axis : Axis) (offset : K) (image : Cube K) : Prop where
  ordered : ∀ other, source.lower.get other ≤ source.upper.get other →
    image.lower.get other ≤ image.upper.get other
  extent : image.extent = source.extent
  lower : image.lower.get axis = 2 * offset - source.upper.get axis
  upper : image.upper.get axis = 2 * offset - source.lower.get axis
  along : ∀ other ≠ axis, image.lower.get other = source.lower.get other ∧
    image.upper.get other = source.upper.get other
  center : source.center.ReflectsTo axis offset image.center
  origin : source.origin.ReflectsTo axis offset image.origin
  rotation : image.rotation.get axis = source.rotation.get axis ∧
    ∀ other ≠ axis, image.rotation.get other = -source.rotation.get other
  copy : source.CopyOf image

/-- A copy at the very place of its source. -/
structure Restores (source back : Cube K) : Prop where
  lower : back.lower = source.lower
  upper : back.upper = source.upper
  origin : back.origin = source.origin
  rotation : back.rotation = source.rotation
  copy : source.CopyOf back

variable [IsStrictOrderedRing K]

lemma lower_mirrored (h : source.lower.get m.axis ≤ source.upper.get m.axis) :
    (source.mirrored m).lower =
      source.lower.set m.axis (Scalar.reflect (source.upper.get m.axis) m.offset) := by
  change source.lower.set m.axis (Scalar.least _ _) = _
  rw [Scalar.least_eq, min_eq_right (Scalar.reflect_le h m.offset)]

lemma upper_mirrored (h : source.lower.get m.axis ≤ source.upper.get m.axis) :
    (source.mirrored m).upper =
      source.upper.set m.axis (Scalar.reflect (source.lower.get m.axis) m.offset) := by
  change source.upper.set m.axis (Scalar.greatest _ _) = _
  rw [Scalar.greatest_eq, max_eq_left (Scalar.reflect_le h m.offset)]

lemma reflects_mirrored (h : source.lower.get m.axis ≤ source.upper.get m.axis) :
    source.Reflects m.axis m.offset (source.mirrored m) where
  ordered other hother := by
    rw [lower_mirrored h, upper_mirrored h, Vec3.get_set, Vec3.get_set]
    split_ifs
    · exact Scalar.reflect_le h m.offset
    · exact hother
  extent := by
    refine Vec3.ext_get fun other => ?_
    simp only [Cube.extent, Vec3.extent, Vec3.get_sub, lower_mirrored h, upper_mirrored h,
      Vec3.get_set]
    split_ifs with hother
    · rw [hother, Scalar.reflect_eq, Scalar.reflect_eq]
      ring
    · rfl
  lower := by rw [lower_mirrored h, Vec3.get_set_self, Scalar.reflect_eq]
  upper := by rw [upper_mirrored h, Vec3.get_set_self, Scalar.reflect_eq]
  along other hother := by
    rw [lower_mirrored h, upper_mirrored h, Vec3.get_set, Vec3.get_set, if_neg hother, if_neg hother]
    exact ⟨rfl, rfl⟩
  center := by
    have hcenter : (source.mirrored m).center = source.center.reflect m.axis m.offset := by
      refine Vec3.ext_get fun other => ?_
      simp only [Cube.center, Vec3.center, Vec3.get_scale, Vec3.get_add, Vec3.get_reflect,
        lower_mirrored h, upper_mirrored h, Vec3.get_set]
      split_ifs
      · rw [Scalar.reflect_eq, Scalar.reflect_eq, Scalar.reflect_eq, Scalar.half_eq]
        ring
      · rfl
    rw [hcenter]
    exact source.center.reflectsTo_reflect m.axis m.offset
  origin := source.origin.reflectsTo_reflect m.axis m.offset
  rotation := by
    have hangle (other : Axis) : (source.mirrored m).rotation.get other = _ :=
      source.rotation.get_reflectAngles m.axis other
    exact ⟨(hangle m.axis).trans (if_pos rfl), fun other hother => (hangle other).trans (if_neg hother)⟩
  copy := copyOf_copy ..

lemma restores_mirrored (h : source.lower.get m.axis ≤ source.upper.get m.axis)
    (haxis : m'.axis = m.axis) (hoffset : m'.offset = m.offset) :
    source.Restores ((source.mirrored m).mirrored m') := by
  have himage : (source.mirrored m).lower.get m'.axis ≤ (source.mirrored m).upper.get m'.axis := by
    rw [haxis]
    exact (reflects_mirrored h).ordered m.axis h
  constructor
  · rw [lower_mirrored himage, haxis, hoffset, lower_mirrored h, upper_mirrored h,
      Vec3.get_set_self, Scalar.reflect_reflect, Vec3.set_set, Vec3.set_get]
  · rw [upper_mirrored himage, haxis, hoffset, lower_mirrored h, upper_mirrored h,
      Vec3.get_set_self, Scalar.reflect_reflect, Vec3.set_set, Vec3.set_get]
  · change (source.origin.reflect m.axis m.offset).reflect m'.axis m'.offset = _
    rw [haxis, hoffset, Vec3.reflect_reflect]
  · change (source.rotation.reflectAngles m.axis).reflectAngles m'.axis = _
    rw [haxis, Vec3.reflectAngles_reflectAngles]
  · exact (copyOf_copy ..).trans (copyOf_copy ..)

end Cube

section Runs

variable {maxCubes : ℕ} {cubes : Cubes K} {c : Copying K} {directives : List (Spec.Directive K)}
  {blocks : List (List (Cube K))}

lemma turns_mirror_twice (hsource : source ∈ cubes.toList) (hnamed : m.source = source.id)
    (hback : m'.source = (source.mirrored m).id) :
    Turns maxCubes cubes.toList [.mirror m, .mirror m'] blocks ↔
      blocks = [[source.mirrored m], [(source.mirrored m).mirrored m']] ∧
      cubes.size + 2 ≤ maxCubes ∧ (source.mirrored m).id ∉ cubes.ids ∧
      ((source.mirrored m).mirrored m').id ∉ cubes.ids ++ [(source.mirrored m).id] := by
  have hids : (cubes.toList ++ [source.mirrored m]).map Cube.id =
      cubes.ids ++ [(source.mirrored m).id] := List.map_append
  have hroom : (cubes.toList ++ [source.mirrored m]).length + 1 = cubes.size + 2 := by
    rw [List.length_append]
    rfl
  constructor
  · intro hturns
    cases hturns with
    | known hready hmade hrest =>
    obtain rfl := (hready.unique hsource (congrArg some hnamed)).symm
    obtain rfl := hmade.cubes
    have hnew := hready.new _ List.mem_cons_self
    cases hrest with
    | @known _ _ _ other _ _ hready' hmade' hnil =>
    -- no cube that was there before has the id of the first copy
    obtain rfl : other = source.mirrored m := by
      have hid : other.id = (source.mirrored m).id :=
        Option.some.inj (hready'.named.symm.trans (congrArg some hback))
      rcases List.mem_append.mp hready'.source_mem with hother | hother
      · exact absurd (List.mem_map.mpr ⟨other, hother, hid⟩) hnew
      · exact List.mem_singleton.mp hother
    obtain rfl := hmade'.cubes
    cases hnil
    exact ⟨rfl, hroom ▸ hready'.room, hnew, hids ▸ hready'.new _ List.mem_cons_self⟩
  · rintro ⟨rfl, hcount, hnew, hnew'⟩
    have hready : Ready maxCubes cubes.toList (.mirror m) source :=
      ⟨hsource, congrArg some hnamed, le_rfl, Nat.le_of_succ_le hcount,
        List.forall_mem_singleton.mpr hnew⟩
    have hready' : Ready maxCubes (cubes.toList ++ [source.mirrored m]) (.mirror m')
        (source.mirrored m) :=
      ⟨List.mem_append_right _ List.mem_cons_self, congrArg some hback, le_rfl, hroom ▸ hcount,
        List.forall_mem_singleton.mpr (hids ▸ hnew')⟩
    exact .known hready (made_copies _ _) (.known hready' (made_copies _ _) .nil)

lemma mirrored_mem (h : expand maxCubes directives cubes = .ok c) (hm : .mirror m ∈ directives)
    (hsource : source ∈ c.cubes.toList) (hnamed : m.source = source.id) :
    source.mirrored m ∈ c.cubes.toList := by
  obtain ⟨other, hother, hid, hcopies⟩ := exists_source_of_expand h hm rfl
  obtain rfl := Roster.eq_of_id_eq hother hsource (hid.trans hnamed)
  exact hcopies _ List.mem_cons_self

end Runs

/-- What comes of a mirror and of one more that has its copy for a source. -/
structure MirroredBack (source : Cube K) (m m' : Spec.Mirror K) : Prop where
  image : source.Reflects m.axis m.offset (source.mirrored m)
  back : source.Restores ((source.mirrored m).mirrored m')
  carried_out : ∀ maxCubes (cubes : Cubes K), source ∈ cubes.toList →
    ((∃ c, expand maxCubes [.mirror m, .mirror m'] cubes = .ok c) ↔
      cubes.size + 2 ≤ maxCubes ∧ (source.mirrored m).id ∉ cubes.ids ∧
      ((source.mirrored m).mirrored m').id ∉ cubes.ids ++ [(source.mirrored m).id])
  appended : ∀ maxCubes (cubes : Cubes K) c, source ∈ cubes.toList →
    expand maxCubes [.mirror m, .mirror m'] cubes = .ok c →
    c.cubes.toList = cubes.toList ++ [source.mirrored m, (source.mirrored m).mirrored m']
  /-- The copies are there wherever the two directives stand, and wherever the source is from. -/
  among : ∀ maxCubes directives (cubes : Cubes K) c, expand maxCubes directives cubes = .ok c →
    .mirror m ∈ directives → .mirror m' ∈ directives → source ∈ c.cubes.toList →
    source.mirrored m ∈ c.cubes.toList ∧ (source.mirrored m).mirrored m' ∈ c.cubes.toList

variable [IsStrictOrderedRing K]

/-- Two mirrors in one plane bring a cube back to its place. -/
theorem mirrored_back (hordered : source.lower.get m.axis ≤ source.upper.get m.axis)
    (hnamed : m.source = source.id) (hback : m'.source = (source.mirrored m).id)
    (haxis : m'.axis = m.axis) (hoffset : m'.offset = m.offset) : MirroredBack source m m' where
  image := Cube.reflects_mirrored hordered
  back := Cube.restores_mirrored hordered haxis hoffset
  carried_out maxCubes cubes hsource := by
    have hturns (blocks) : Turns maxCubes cubes.toList [.mirror m, .mirror m'] blocks ↔ _ :=
      turns_mirror_twice hsource hnamed hback
    constructor
    · rintro ⟨c, h⟩
      obtain ⟨blocks, h, -⟩ := expand_ok.mp h
      exact ((hturns blocks).mp h).2
    · intro h
      obtain ⟨c, hc, -⟩ := exists_foldlM_carryOut (c := { cubes }) ((hturns _).mpr ⟨rfl, h⟩) rfl
      exact ⟨c, hc⟩
  appended maxCubes cubes c hsource h := by
    obtain ⟨blocks, hturns, hcubes, -⟩ := expand_ok.mp h
    obtain ⟨rfl, -⟩ := (turns_mirror_twice hsource hnamed hback).mp hturns
    exact hcubes
  among _ _ _ _ h hm hm' hsource := by
    have himage := mirrored_mem h hm hsource hnamed
    exact ⟨himage, mirrored_mem h hm' himage hback⟩

def ear : Cube ℚ :=
  { Cube.ofBox "ear" "head" ⟨1, 8, -1⟩ ⟨3, 11, 0⟩ with
    origin := ⟨2, 8, -1 / 2⟩, rotation := ⟨0, 15, -30⟩ }

def outward : Spec.Mirror ℚ := { source := "ear", axis := .x, offset := 1 / 3 }

def inward : Spec.Mirror ℚ :=
  { source := "ear_mirror", axis := .x, offset := 1 / 3, newId := some "ear_again" }

theorem mirrored_back_ear : ear.lower.get .x ≤ ear.upper.get .x ∧
    inward.source = (ear.mirrored outward).id ∧ MirroredBack ear outward inward := by
  have hordered : ear.lower.get .x ≤ ear.upper.get .x := by decide +kernel
  exact ⟨hordered, rfl, mirrored_back hordered rfl rfl rfl rfl⟩

end Model

end Armature
