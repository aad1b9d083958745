import Armature.Plan.OfModel
import Armature.Proofs.Attempts
import Armature.Proofs.Matchings

/-! The parts of a plan: what desired and live entities stand for each other, and the operations that
come of it. -/

namespace Armature.Plan

variable {K : Type} [Scalar K]

abbrev boneMatching (model : Model K) (live : Live K) : Matching (Model.Bone K) (Live.Bone K) :=
  matchUp (slots live.bones) model.bones.toList

abbrev cubeMatching (model : Model K) (live : Live K) : Matching (Model.Cube K) (Live.Cube K) :=
  matchUp (slots live.cubes) model.cubes.toList

/-- The operations of a plan, whether or not the mode allows them. -/
def opsFor (mode : Mode) (deleteOrphans : Bool) (model : Model K) (live : Live K) : List (Op K) :=
  boneOps model.bones mode.comparesAll (boneMatching model live) ++
    cubeOps model.bones mode.comparesAll (cubeMatching model live) ++
    if mode = .replace ∧ deleteOrphans then
      ((cubeMatching model live).orphans model.cubes.toList).map
          (fun slot => .deleteCube slot.entity.id slot.entity.name) ++
        boneDeletions live.bones ((boneMatching model live).orphans model.bones.toList)
    else []

variable {mode : Mode} {deleteOrphans : Bool} {model : Model K} {live : Live K}

lemma ofModel_ok {plan : Plan K} : ofModel mode deleteOrphans model live = .ok plan ↔
    Mode.check (K := K) mode .bone (boneMatching model live) = .ok () ∧
      Mode.check (K := K) mode .cube (cubeMatching model live) = .ok () ∧
        plan = {
          ops := opsFor mode deleteOrphans model live
          summary := .ofOps (opsFor mode deleteOrphans model live) model
          revision := live.revision } := by
  rw [ofModel, Attempts.then_ok, Attempts.then_ok]
  refine and_congr_right fun _ => and_congr_right fun _ => ?_
  exact ⟨fun h => (Except.ok.inj h).symm, fun h => congrArg Except.ok h.symm⟩

omit [Scalar K] in
lemma check_of_claimed {α β : Type} [Desired α] [Named β] {kind : Kind} {m : Matching α β}
    (hmode : mode ≠ .create) (h : ∀ pair ∈ m.pairs, pair.2.isSome = true) :
    Mode.check (K := K) mode kind m = .ok () := by
  cases mode with
  | create => exact (hmode rfl).elim
  | merge | replace => rfl
  | patch =>
    have hn : m.pairs.find? (·.2.isNone) = none :=
      List.find?_eq_none.mpr fun pair hp => by simpa [Option.isSome_iff_ne_none] using h pair hp
    simp only [Mode.check, hn]

end Armature.Plan
