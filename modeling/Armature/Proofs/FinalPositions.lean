import Mathlib
import Armature.Proofs.ExactArithmetic
import Armature.Proofs.Provenance

/-! Where the positions of a model come to rest, in exact arithmetic: on the grid of the policy, or
inside its bounds. Before that they are what they are without a grid and bounds. -/

namespace Armature

lemma Spec.Policy.check_ok {K : Type} [Scalar K] {policy : Spec.Policy K} :
    policy.check = .ok () ↔
      (∀ grid ∈ policy.snapGrid,
        Scalar.isFinite grid = true ∧ Scalar.lt Scalar.zero grid = true) ∧
      ∀ bounds ∈ policy.bounds, bounds.isValid = true := by
  have hthrow {α : Type} (fault : Fault K) (a : α) :
      (throw fault : Except (Fault K) α) ≠ .ok a := by
    intro h
    cases h
  have hpure : (pure () : Except (Fault K) Unit) = .ok () := rfl
  obtain ⟨_, _, _, snapGrid, bounds⟩ := policy
  cases snapGrid <;> cases bounds <;>
    simp [check, Attempts.bind_ok, hthrow, hpure, ite_eq_iff]

variable {K : Type} [Field K] [LinearOrder K] [FloorRing K] [Trig K]

section Snapping

variable {grid : K}

lemma Scalar.exists_snap_eq (h : 0 < grid) (a : K) : ∃ n : ℤ, snap a grid = n * grid := by
  obtain ⟨n, hn⟩ := exists_roundAway_eq (a / grid)
  exact ⟨n, by rw [snap_eq h, hn]⟩

variable [IsStrictOrderedRing K]

lemma Scalar.snap_near (h : 0 < grid) (a : K) : |snap a grid - a| ≤ grid / 2 := by
  have hscaled : roundAway (a / grid) * grid - a = (roundAway (a / grid) - a / grid) * grid := by
    rw [sub_mul, div_mul_cancel₀ a h.ne']
  rw [snap_eq h]
  calc |roundAway (a / grid) * grid - a|
      = |roundAway (a / grid) - a / grid| * grid := by rw [hscaled, abs_mul, abs_of_pos h]
    _ ≤ 1 / 2 * grid := mul_le_mul_of_nonneg_right (roundAway_near _) h.le
    _ = grid / 2 := by ring

lemma Scalar.snap_mono (h : 0 < grid) : Monotone fun a : K => snap a grid := by
  intro a b hab
  have hround := roundAway_mono (div_le_div_of_nonneg_right hab h.le)
  dsimp only
  rw [snap_eq h, snap_eq h]
  exact mul_le_mul_of_nonneg_right hround h.le

end Snapping

lemma Bounds.isValid_iff {bounds : Bounds K} :
    bounds.isValid = true ↔ ∀ axis, bounds.min.get axis ≤ bounds.max.get axis := by
  simp only [isValid, Vec3.forall₂, Bool.and_eq_true, Scalar.le_iff]
  constructor
  · rintro ⟨⟨hx, hy⟩, hz⟩ axis
    cases axis
    exacts [hx, hy, hz]
  · exact fun h => ⟨⟨h .x, h .y⟩, h .z⟩

namespace Spec.Policy

structure Usable (policy : Policy K) : Prop where
  grid_pos : ∀ grid ∈ policy.snapGrid, 0 < grid
  bounds_le : ∀ bounds ∈ policy.bounds, ∀ axis, bounds.min.get axis ≤ bounds.max.get axis

/-- Where a coordinate on an axis is, after the grid and the bounds have moved it. -/
structure Rests (policy : Policy K) (axis : Axis) (before after : K) : Prop where
  bounded : ∀ bounds ∈ policy.bounds, bounds.min.get axis ≤ after ∧ after ≤ bounds.max.get axis
  on_grid : policy.bounds = none → ∀ grid ∈ policy.snapGrid,
    (∃ n : ℤ, after = n * grid) ∧ |after - before| ≤ grid / 2
  unmoved : policy.bounds = none → policy.snapGrid = none → after = before

def snapped (policy : Policy K) (a : K) : K := policy.snapGrid.elim a (Scalar.snap a)

def coordinate (policy : Policy K) (axis : Axis) (a : K) : K :=
  policy.bounds.elim (policy.snapped a) fun bounds =>
    Scalar.clamp (policy.snapped a) (bounds.min.get axis) (bounds.max.get axis)

variable {policy : Policy K}

lemma get_place (position : Vec3 K) (axis : Axis) :
    (policy.place position).get axis = policy.coordinate axis (position.get axis) := by
  rw [place, coordinate, snapped]
  cases policy.snapGrid <;> cases policy.bounds <;> cases axis <;> rfl

lemma usable_of_check (h : policy.check = .ok ()) : policy.Usable := by
  obtain ⟨hgrid, hbounds⟩ := check_ok.mp h
  constructor
  · intro grid hmem
    rw [← Scalar.zero_eq, ← Scalar.lt_iff]
    exact (hgrid grid hmem).2
  · intro bounds hmem
    exact Bounds.isValid_iff.mp (hbounds bounds hmem)

variable [IsStrictOrderedRing K]

lemma snapped_mono (h : policy.Usable) : Monotone policy.snapped := by
  intro a b hab
  unfold snapped
  cases hgrid : policy.snapGrid with
  | none => exact hab
  | some grid => exact Scalar.snap_mono (h.grid_pos grid hgrid) hab

lemma coordinate_mono (h : policy.Usable) (axis : Axis) : Monotone (policy.coordinate axis) := by
  intro a b hab
  unfold coordinate
  cases policy.bounds with
  | none => exact snapped_mono h hab
  | some bounds =>
    rw [Option.elim_some, Option.elim_some, Scalar.clamp_eq, Scalar.clamp_eq]
    exact min_le_min_right _ (max_le_max_right _ (snapped_mono h hab))

lemma place_mono (h : policy.Usable) {axis : Axis} {position position' : Vec3 K}
    (hle : position.get axis ≤ position'.get axis) :
    (policy.place position).get axis ≤ (policy.place position').get axis := by
  rw [get_place, get_place]
  exact coordinate_mono h axis hle

lemma rests_place (h : policy.Usable) (position : Vec3 K) (axis : Axis) :
    policy.Rests axis (position.get axis) ((policy.place position).get axis) := by
  rw [get_place]
  constructor
  · intro bounds hbounds
    rw [coordinate, hbounds, Option.elim_some, Scalar.clamp_eq]
    exact ⟨le_min (le_max_right _ _) (h.bounds_le bounds hbounds axis), min_le_right _ _⟩
  · intro hbounds grid hgrid
    have hpos := h.grid_pos grid hgrid
    rw [coordinate, hbounds, Option.elim_none, snapped, hgrid, Option.elim_some]
    exact ⟨Scalar.exists_snap_eq hpos _, Scalar.snap_near hpos _⟩
  · intro hbounds hgrid
    rw [coordinate, hbounds, Option.elim_none, snapped, hgrid, Option.elim_none]

end Spec.Policy

/-- The spec without a grid and bounds: in its model, entities are where they are before they are
placed. -/
def Spec.unplaced (spec : Spec K) : Spec K :=
  { spec with policy := { spec.policy with snapGrid := none, bounds := none } }

namespace Model

structure Bone.RestsAt (policy : Spec.Policy K) (before after : Bone K) : Prop where
  moved : before.Moved after
  pivot : ∀ axis, policy.Rests axis (before.pivot.get axis) (after.pivot.get axis)

structure Cube.RestsAt (policy : Spec.Policy K) (before after : Cube K) : Prop where
  moved : before.Moved after
  lower : ∀ axis, policy.Rests axis (before.lower.get axis) (after.lower.get axis)
  upper : ∀ axis, policy.Rests axis (before.upper.get axis) (after.upper.get axis)
  origin : ∀ axis, policy.Rests axis (before.origin.get axis) (after.origin.get axis)
  ordered : ∀ axis, before.lower.get axis ≤ before.upper.get axis →
    after.lower.get axis ≤ after.upper.get axis

variable {limits : Limits} {spec : Spec K} {m : Model K}

lemma exists_unplaced (h : ofSpec limits spec = .ok m) :
    ∃ unplaced, ofSpec limits spec.unplaced = .ok unplaced ∧
      m.bones = placeBones spec.policy unplaced.bones ∧
      m.cubes = placeCubes spec.policy unplaced.cubes := by
  obtain ⟨s, rfl⟩ := exists_stages h
  let s' : Stages limits spec.unplaced :=
    ⟨s.mergedBones, s.mergedCubes, s.bones, s.cubes, s.copying, rfl, s.bones_merged,
      s.cubes_merged, s.bones_ok, s.cubes_ok, s.anchored, s.expanded, s.count_ok, s.names_ok⟩
  refine ⟨s'.model, s'.ofSpec_eq, ?_, ?_⟩
  · exact Roster.ext_of_toList (congrArg (List.map _) (List.map_id s.bones.toList).symm)
  · exact Roster.ext_of_toList (congrArg (List.map _) (List.map_id s.copying.cubes.toList).symm)

/-- What a policy makes of the model that there is without its grid and bounds. -/
structure AtRest (policy : Spec.Policy K) (unplaced m : Model K) : Prop where
  clampable : ∀ bounds ∈ policy.bounds, (∀ axis, bounds.min.get axis ≤ bounds.max.get axis) ∧
    ∀ position : Vec3 K, position.clamp? bounds = some (position.clamp bounds)
  bones : List.Forall₂ (Bone.RestsAt policy) unplaced.bones.toList m.bones.toList
  cubes : List.Forall₂ (Cube.RestsAt policy) unplaced.cubes.toList m.cubes.toList
  monotone : ∀ axis (position position' : Vec3 K), position.get axis ≤ position'.get axis →
    (policy.place position).get axis ≤ (policy.place position').get axis

variable [IsStrictOrderedRing K]

/-- The model of a spec is that of the spec without a grid and bounds, with every position moved to
where it rests. -/
theorem ofSpec_atRest (h : ofSpec limits spec = .ok m) :
    ∃ unplaced, ofSpec limits spec.unplaced = .ok unplaced ∧ AtRest spec.policy unplaced m := by
  obtain ⟨s, -⟩ := exists_stages h
  have husable := Spec.Policy.usable_of_check s.policy_ok
  obtain ⟨unplaced, hunplaced, hbones, hcubes⟩ := exists_unplaced h
  refine ⟨unplaced, hunplaced, ?_, ?_, ?_, ?_⟩
  · intro bounds hbounds
    have hle := husable.bounds_le bounds hbounds
    exact ⟨hle, fun position => if_pos (Bounds.isValid_iff.mpr hle)⟩
  · rw [hbones]
    refine List.forall₂_map_right_iff.mpr (List.forall₂_same.mpr fun b _ => ⟨rfl, ?_⟩)
    exact fun axis => Spec.Policy.rests_place husable b.pivot axis
  · rw [hcubes]
    refine List.forall₂_map_right_iff.mpr (List.forall₂_same.mpr fun c _ => ⟨rfl, ?_, ?_, ?_, ?_⟩)
    · exact fun axis => Spec.Policy.rests_place husable c.lower axis
    · exact fun axis => Spec.Policy.rests_place husable c.upper axis
    · exact fun axis => Spec.Policy.rests_place husable c.origin axis
    · exact fun axis => Spec.Policy.place_mono husable
  · exact fun axis position position' => Spec.Policy.place_mono husable

def headBounds : Bounds ℚ := ⟨⟨-16, 0, -16⟩, ⟨16, 16, 16⟩⟩

def headSpec (bounds : Option (Bounds ℚ)) : Spec ℚ where
  bones := [{ id := some "head", pivot := some ⟨3 / 10, 101 / 5, -4 / 5⟩ }]
  cubes :=
    [{ id := some "box", lower := some ⟨-1 / 5, 3 / 5, 0⟩, upper := some ⟨40, 7 / 5, 1⟩ }]
  instances :=
    [.mirror { source := "box", axis := .x, offset := 1 / 3 },
      .radial { source := "box", count := 4, axis := .y, center := ⟨0, 0, 0⟩, radius := some 3 }]
  policy := { snapGrid := some (1 / 2), bounds }

theorem ofSpec_atRest_head :
    (∃ m unplaced, ofSpec .standard (headSpec none) = .ok m ∧
      AtRest (headSpec none).policy unplaced m) ∧
    ∃ m unplaced, ofSpec .standard (headSpec headBounds) = .ok m ∧
      AtRest (headSpec headBounds).policy unplaced m := by
  constructor
  · obtain ⟨m, hm⟩ := Attempts.exists_ok (x := ofSpec .standard (headSpec none))
      (by decide +kernel)
    obtain ⟨unplaced, -, hrest⟩ := ofSpec_atRest hm
    exact ⟨m, unplaced, hm, hrest⟩
  · obtain ⟨m, hm⟩ := Attempts.exists_ok (x := ofSpec .standard (headSpec headBounds))
      (by decide +kernel)
    obtain ⟨unplaced, -, hrest⟩ := ofSpec_atRest hm
    exact ⟨m, unplaced, hm, hrest⟩

end Model

end Armature
