import Armature.Proofs.Bearers
import Armature.Proofs.SetAttributes

/-! The origin of a cube whose entry leaves it to the box. Such an entry always sets its box, and so a
plan that does not compare everything compares the origin too: it writes it wherever the live cube has
another one, whether or not the box moves. -/

namespace Armature

namespace Model

variable {K : Type} [Scalar K] {policy : Spec.Policy K} {entry : Spec.Cube K} {c : Cube K}

lemma bounds_of_box? {box : Vec3 K × Vec3 K} (h : entry.box? = some box) :
    entry.flags.bounds = true := by
  rw [Spec.Cube.box?] at h
  split at h
  next lower upper hlower hupper => simp [Spec.Cube.flags, hlower]
  · obtain ⟨center, -, h⟩ := Option.bind_eq_some_iff.mp h
    obtain ⟨size, hsize, -⟩ := Option.bind_eq_some_iff.mp h
    simp [Spec.Cube.flags, hsize]

lemma bounds_of_standsFor (h : StandsFor (Spec.Cube.resolve policy) entry c) :
    entry.flags.bounds = true := by
  obtain ⟨-, -, box, hbox⟩ := resolveCube_ok h
  exact bounds_of_box? hbox

end Model

namespace Plan

variable {K : Type} [Scalar K]

def BoxStays (c : Model.Cube K) (cube : Live.Cube K) : Prop :=
  c.lower.near cube.lower = true ∧ c.upper.near cube.upper = true

instance (c : Model.Cube K) (cube : Live.Cube K) : Decidable (BoxStays c cube) :=
  inferInstanceAs (Decidable (_ ∧ _))

def OriginStays (c : Model.Cube K) (cube : Live.Cube K) : Prop :=
  c.origin.near cube.effectiveOrigin = true

instance (c : Model.Cube K) (cube : Live.Cube K) : Decidable (OriginStays c cube) :=
  inferInstanceAs (Decidable (_ = _))

structure PlacesAnew (c : Model.Cube K) (cube : Live.Cube K) (changes : CubeChanges K) : Prop where
  lower : changes.lower = if BoxStays c cube then none else some c.lower
  upper : changes.upper = if BoxStays c cube then none else some c.upper
  origin : changes.origin = if OriginStays c cube then none else some c.origin

lemma placesAnew_of_bounds {bones : Model.Bones K} {c : Model.Cube K} {cube : Live.Cube K}
    (h : c.explicit.bounds = true) : PlacesAnew c cube (diffCube bones false c cube).1 := by
  have hbox : (c.explicit.bounds && !(c.lower.near cube.lower && c.upper.near cube.upper)) = true ↔
      ¬ BoxStays c cube := by
    rw [h, Bool.true_and, Bool.not_eq_true', Bool.eq_false_iff, ne_eq, Bool.and_eq_true, BoxStays]
  refine ⟨?_, ?_, ?_⟩
  · simp only [diffCube, Bool.false_or, hbox, ite_not]
  · simp only [diffCube, Bool.false_or, hbox, ite_not]
  · simp only [diffCube, h, Bool.or_true, vectorChange, Bool.true_and, Bool.not_eq_true',
      OriginStays]
    split_ifs <;> simp_all

def MovesOriginAlone : Op K → Prop
  | .updateCube _ _ changes _ =>
    changes.origin.isSome = true ∧ changes.lower = none ∧ changes.upper = none
  | _ => False

instance : DecidablePred (MovesOriginAlone (K := K))
  | .updateCube _ _ _ _ => inferInstanceAs (Decidable (_ ∧ _))
  | .createBone _ | .updateBone _ _ _ _ | .deleteBone _ _ | .createCube _ | .deleteCube _ _ =>
    inferInstanceAs (Decidable False)

lemma PlacesAnew.alone_iff {c : Model.Cube K} {cube : Live.Cube K} {changes : CubeChanges K}
    (h : PlacesAnew c cube changes) (id : Option String) (name : String) (toRoot : Bool) :
    MovesOriginAlone (.updateCube id name changes toRoot) ↔
      BoxStays c cube ∧ ¬ OriginStays c cube := by
  rw [MovesOriginAlone, h.lower, h.upper, h.origin]
  split_ifs with horigin hbox hbox <;> simp [horigin, hbox]

/-- What the steps of a plan do to the placement of a desired cube. -/
structure OriginCompared (steps : List (Step K)) (c : Model.Cube K)
    (claim : Option (Slot (Live.Cube K))) : Prop where
  updates : ∀ s ∈ steps, s.cube? = some c → ∀ id name changes toRoot,
    s.op = .updateCube id name changes toRoot →
      ∃ slot, claim = some slot ∧ PlacesAnew c slot.entity changes
  /-- The origin moves without the box exactly if it alone is not where it should be. -/
  alone : (∃ s ∈ steps, s.cube? = some c ∧ MovesOriginAlone s.op) ↔
    ∃ slot, claim = some slot ∧ BoxStays c slot.entity ∧ ¬ OriginStays c slot.entity

section Plans

variable {mode : Mode} {deleteOrphans : Bool} {model : Model K} {live : Live K} {c : Model.Cube K}
  {claim : Option (Slot (Live.Cube K))} {s : Step K}

lemma exists_cubeStep_of_strays {bones : Model.Bones K} {slot : Slot (Live.Cube K)}
    (hbounds : c.explicit.bounds = true) (h : ¬ OriginStays c slot.entity) :
    ∃ s, cubeStep? bones false (c, some slot) = some s := by
  have horigin : (diffCube bones false c slot.entity).1.origin = some c.origin :=
    (placesAnew_of_bounds hbounds).origin.trans (if_neg h)
  have hchanged : (diffCube bones false c slot.entity).1.isEmpty = false := by
    simp [CubeChanges.isEmpty, horigin]
  simp [cubeStep?, cubeOp?, hchanged]

lemma originCompared (hcompare : mode.comparesAll = false)
    (hp : (c, claim) ∈ (cubeMatching model live).pairs) (hbounds : c.explicit.bounds = true) :
    OriginCompared (sequence mode deleteOrphans model live) c claim := by
  have hclaimed : ∀ s ∈ sequence mode deleteOrphans model live, s.cube? = some c →
      cubeStep? model.bones false (c, claim) = some s := by
    intro s hs hc
    obtain ⟨other, ho, hstep⟩ := exists_pair_of_cube? hs hc
    rwa [claim_eq model.cubes.nodup hp ho, ← hcompare]
  have hupdate : ∀ s ∈ sequence mode deleteOrphans model live, s.cube? = some c →
      ∀ id name changes toRoot, s.op = .updateCube id name changes toRoot →
        ∃ slot, claim = some slot ∧ PlacesAnew c slot.entity changes := by
    intro s hs hc id name changes toRoot hop
    have hstep := hclaimed s hs hc
    cases claim with
    | none => cases (Option.some.inj (cubeStep?_eq_some.mp hstep).1).trans hop
    | some slot =>
      rw [cubeStep?_update hstep] at hop
      cases hop
      exact ⟨slot, rfl, placesAnew_of_bounds hbounds⟩
  refine ⟨hupdate, ?_, ?_⟩
  · rintro ⟨s, hs, hc, halone⟩
    cases hop : s.op with
    | updateCube id name changes toRoot =>
      obtain ⟨slot, rfl, hplaces⟩ := hupdate s hs hc id name changes toRoot hop
      rw [hop] at halone
      exact ⟨slot, rfl, (hplaces.alone_iff id name toRoot).mp halone⟩
    | _ =>
      rw [hop] at halone
      exact halone.elim
  · rintro ⟨slot, rfl, halone⟩
    obtain ⟨s, hstep⟩ : ∃ s, cubeStep? model.bones false (c, some slot) = some s :=
      exists_cubeStep_of_strays hbounds halone.2
    refine ⟨s, mem_sequence_of_cubeStep hp (hcompare ▸ hstep), cubeStep?_cube? hstep, ?_⟩
    rw [cubeStep?_update hstep]
    exact ((placesAnew_of_bounds hbounds).alone_iff _ _ _).mpr halone

/-- In `merge` and `patch` the origin of a live cube moves without its box exactly if the box is where
it should be and the origin is not, also where the entry says nothing of an origin. -/
theorem ofModel_originCompared {limits : Limits} {spec : Spec K} {plan : Plan K}
    (hmodel : Model.ofSpec limits spec = .ok model) (hmode : mode = .merge ∨ mode = .patch)
    (hplan : ofModel mode deleteOrphans model live = .ok plan) :
    (sequence mode deleteOrphans model live).map Step.op = plan.ops ∧
      ∀ entry ∈ spec.cubes, entry.origin = none → entry.originAnchor = none →
        ∀ c claim, (c, claim) ∈ (cubeMatching model live).pairs →
          Model.Describes (Spec.Cube.resolve spec.policy) entry c.id →
            c.explicit.origin = false ∧
              OriginCompared (sequence mode deleteOrphans model live) c claim := by
  have hcompare : mode.comparesAll = false := by rcases hmode with rfl | rfl <;> rfl
  obtain ⟨-, -, rfl⟩ := ofModel_ok.mp hplan
  refine ⟨sequence_map_op .., fun entry hentry horigin hanchor c claim hp hdescribes => ?_⟩
  obtain ⟨-, hset⟩ := Model.cube_described hmodel (mem_of_pair hp) hentry hdescribes
  obtain ⟨c', hstands, -⟩ := hdescribes
  have hbounds : c.explicit.bounds = true := by
    rw [hset]
    exact Model.bounds_of_standsFor hstands
  have hunset : c.explicit.origin = false := by
    rw [hset, Spec.Cube.flags, horigin, hanchor]
    rfl
  exact ⟨hunset, originCompared hcompare hp hbounds⟩

end Plans

def crate : Spec.Cube Float where
  id := some "crate"
  lower := some .zero
  upper := some (Template.point 2 2 2)

def crateSpec : Spec Float where
  cubes := [crate]

def crateLive : Live Float where
  bones := [{ Live.Bone.named rootId with id := some rootId }]
  cubes := [{ Live.Cube.named "crate" with
    id := some "crate", parent := some rootId, upper := Template.point 2 2 2, origin := some .zero }]

/-- The crate stays where it is, and loses the origin in its corner. -/
theorem origin_taken : ∃ model plan, Model.ofSpec .standard crateSpec = .ok model ∧
    ofModel .merge false model crateLive = .ok plan ∧
      (∀ entry ∈ crateSpec.cubes, entry.origin.isNone ∧ entry.originAnchor.isNone) ∧
        ∃ op ∈ plan.ops, MovesOriginAlone op := by
  obtain ⟨model, hm⟩ : ∃ model, Model.ofSpec .standard crateSpec = .ok model :=
    Attempts.exists_ok (by decide +kernel)
  have halone : ∃ op ∈ opsFor .merge false model crateLive, MovesOriginAlone op := by
    apply Attempts.holds_of_all hm
    decide +kernel
  exact ⟨model, _, hm, ofModel_ok.mpr ⟨rfl, rfl, rfl⟩, by decide, halone⟩

theorem ofModel_originCompared_crate : ∃ model plan, Model.ofSpec .standard crateSpec = .ok model ∧
    ofModel .merge false model crateLive = .ok plan ∧ crate ∈ crateSpec.cubes ∧
      crate.origin = none ∧ crate.originAnchor = none ∧
        ∃ c slot, (c, some slot) ∈ (cubeMatching model crateLive).pairs ∧
          Model.Describes (Spec.Cube.resolve crateSpec.policy) crate c.id ∧
            OriginCompared (sequence .merge false model crateLive) c (some slot) := by
  obtain ⟨model, hm⟩ : ∃ model, Model.ofSpec .standard crateSpec = .ok model :=
    Attempts.exists_ok (by decide +kernel)
  have hplan : ofModel .merge false model crateLive = .ok _ := ofModel_ok.mpr ⟨rfl, rfl, rfl⟩
  have hclaim : ∃ pair ∈ (cubeMatching model crateLive).pairs, pair.1.id = "crate" ∧
      pair.2.isSome = true := by
    apply Attempts.holds_of_all hm
    decide +kernel
  obtain ⟨⟨c, claim⟩, hp, hid, hsome⟩ := hclaim
  obtain ⟨slot, rfl⟩ := Option.isSome_iff_exists.mp hsome
  have hdescribes : Model.Describes (Spec.Cube.resolve crateSpec.policy) crate c.id := by
    obtain ⟨c', hc'⟩ : ∃ c', crate.resolve crateSpec.policy 0 = .ok c' :=
      Attempts.exists_ok (by decide +kernel)
    have hid' : c'.id = "crate" := by
      apply Attempts.holds_of_all hc'
      decide +kernel
    exact ⟨c', ⟨0, hc'⟩, hid'.trans hid.symm⟩
  obtain ⟨-, hcompared⟩ := ofModel_originCompared hm (.inl rfl) hplan
  have hcrate : crate ∈ crateSpec.cubes := List.mem_singleton_self crate
  exact ⟨model, _, hm, hplan, hcrate, rfl, rfl, c, slot, hp, hdescribes,
    (hcompared crate hcrate rfl rfl c _ hp hdescribes).2⟩

end Plan

end Armature
