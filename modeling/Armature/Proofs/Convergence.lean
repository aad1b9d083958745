import Armature.Proofs.CarryingOut
import Armature.Proofs.SettledModels

/-! One update is enough: what was written is no longer different, and what was not written was not
different before. The exception is an origin that is not set. It goes along when the box moves, and so
it may leave the place where it was found to be right. -/

namespace Armature.Plan

section Fields

variable {α K : Type} {compare : Bool}

lemma filter_written (differs : α → Option α → Bool) {desired : Option α} (live : Option α)
    (h : ∀ value ∈ desired, differs value (some value) = false) :
    (desired.filter fun value => differs value (desired.filter (differs · live) <|> live)) = none := by
  cases desired with
  | none => rfl
  | some value =>
    cases hdiffers : differs value live with
    | true =>
      have hwritten : (some value).filter (differs · live) = some value := by simp [hdiffers]
      rw [hwritten]
      simpa using h value rfl
    | false =>
      have hkept : (some value).filter (differs · live) = none := by simp [hdiffers]
      rw [hkept]
      simpa using hdiffers

lemma idChange_written (desired : String) (live : Option String) :
    idChange compare desired (idChange compare desired live <|> live) = none := by
  cases live with
  | none => rfl
  | some id =>
    by_cases h : compare = true ∧ id ≠ desired
    · simp [idChange, h.1, h.2]
    · simp [idChange, h]

lemma nameChange_written (desired live : String) :
    nameChange compare desired ((nameChange compare desired live).getD live) = none := by
  by_cases h : compare = true ∧ desired ≠ live
  · simp [nameChange, h.1, h.2]
  · simp [nameChange, h]

lemma switchChange_written (desired live : Option Bool) (default : Bool) :
    switchChange compare desired
      ((switchChange compare desired (live.getD default) <|> live).getD default) = none := by
  apply filter_written fun value live => compare && value != live.getD default
  intro value _
  simp

lemma distance_written (near : α → α → Bool) {desired : Option α} (live : Option α) (default : α)
    (h : ∀ value ∈ desired, near value value = true) :
    (desired.filter fun value => compare && !near value
      ((desired.filter (fun value => compare && !near value (live.getD default)) <|> live).getD
        default)) = none := by
  apply filter_written fun value live => compare && !near value (live.getD default)
  intro value hvalue
  simp [h value hvalue]

lemma vectorChange_written [Scalar K] {desired : Vec3 K} (live : Vec3 K)
    (h : desired.near desired = true) :
    vectorChange compare desired ((vectorChange compare desired live).getD live) = none := by
  by_cases hdiffers : compare = true ∧ desired.near live = false
  · simp [vectorChange, hdiffers.1, hdiffers.2, h]
  · have hkept : vectorChange compare desired live = none := by
      simpa [vectorChange] using hdiffers
    rw [hkept]
    exact hkept

end Fields

section Parents

variable {K : Type}

def newParent (bones : Model.Bones K) (compare : Bool) (desired live : Option String) :
    Option String :=
  if compare && desired.isNone && live.isSome then none
  else (desired.filter fun parent => compare && !parentMatches bones parent live) <|> live

variable (bones : Model.Bones K) (compare : Bool) (desired live : Option String)

lemma parent_written : (desired.filter fun parent =>
    compare && !parentMatches bones parent (newParent bones compare desired live)) = none := by
  cases desired with
  | none => rfl
  | some desired =>
    simp only [newParent, Option.isNone_some, Bool.and_false, Bool.false_and, Bool.false_eq_true,
      if_false]
    apply filter_written fun parent live => compare && !parentMatches bones parent live
    intro parent _
    simp [parentMatches_self]

lemma top_written :
    (compare && desired.isNone && (newParent bones compare desired live).isSome) = false := by
  cases desired with
  | some desired => simp
  | none => cases compare <;> cases live <;> rfl

def newCubeParent (bones : Model.Bones K) (compare : Bool) (desired : String)
    (live : Option String) : Option String :=
  (if compare && !parentMatches bones desired live then some desired else none) <|> live

lemma cubeParent_written (desired : String) : (compare && !parentMatches bones desired
    (newCubeParent bones compare desired live)) = false := by
  cases h : compare && !parentMatches bones desired live with
  | true => simp [newCubeParent, h, parentMatches_self]
  | false =>
    have hkept : newCubeParent bones compare desired live = live := by simp [newCubeParent, h]
    rw [hkept]
    exact h

end Parents

section Written

variable {K : Type} [Scalar K] (bones : Model.Bones K) (all : Bool)

def writtenBone (b : Model.Bone K) (live : Live.Bone K) : Live.Bone K :=
  (diffBone bones all b live).1.apply (diffBone bones all b live).2 live

def writtenCube (c : Model.Cube K) (live : Live.Cube K) : Live.Cube K :=
  (diffCube bones all c live).1.apply live

end Written

variable {bones : Model.Bones Float} {all : Bool}

lemma diffBone_written {b : Model.Bone Float} (hb : b.isFinite = true) (live : Live.Bone Float) :
    diffBone bones all b (writtenBone bones all b live) = ({}, false) := by
  simp only [Model.Bone.isFinite, Bool.and_eq_true] at hb
  obtain ⟨⟨hpivot, hrotation⟩, hscale⟩ := hb
  generalize hnext : writtenBone bones all b live = next
  have hid : next.id = (idChange (all || b.explicit.id) b.id live.id <|> live.id) := hnext ▸ rfl
  have hname : next.name = (nameChange (all || b.explicit.name) b.name live.name).getD live.name :=
    hnext ▸ rfl
  have hparent : next.parent = newParent bones (all || b.explicit.parent) b.parent live.parent :=
    hnext ▸ rfl
  have hpivot' : next.pivot =
      (vectorChange (all || b.explicit.pivot) b.pivot live.pivot).getD live.pivot := hnext ▸ rfl
  have hrotation' : next.rotation =
      (vectorChange (all || b.explicit.rotation) b.rotation live.rotation).getD live.rotation :=
    hnext ▸ rfl
  have hscale' : next.scale =
      (vectorChange (all || b.explicit.scale) b.scale live.scale).getD live.scale := hnext ▸ rfl
  have hvisibility : next.visibility = (switchChange (all || b.explicit.visibility) b.visibility
      (live.visibility.getD true) <|> live.visibility) := hnext ▸ rfl
  simp only [diffBone, hid, hname, hparent, hpivot', hrotation', hscale', hvisibility, idChange_written,
    nameChange_written, switchChange_written, vectorChange_written _ (Vec3.near_self hpivot),
    vectorChange_written _ (Vec3.near_self hrotation), vectorChange_written _ (Vec3.near_self hscale),
    parent_written, top_written]

section Boxes

variable {K : Type} [Scalar K]

def boxMoves (all : Bool) (c : Model.Cube K) (live : Live.Cube K) : Bool :=
  (all || c.explicit.bounds) && !(c.lower.near live.lower && c.upper.near live.upper)

/-- The origin is not set, is where it should be as long as the box stays, and goes elsewhere with the
box. -/
def originStrays (all : Bool) (c : Model.Cube K) (live : Live.Cube K) : Bool :=
  live.origin.isNone && boxMoves all c live && c.origin.near live.effectiveOrigin &&
    !c.origin.near c.center

def newLower (all : Bool) (c : Model.Cube K) (live : Live.Cube K) : Vec3 K :=
  (if boxMoves all c live then some c.lower else none).getD live.lower

def newUpper (all : Bool) (c : Model.Cube K) (live : Live.Cube K) : Vec3 K :=
  (if boxMoves all c live then some c.upper else none).getD live.upper

def newOrigin (all : Bool) (c : Model.Cube K) (live : Live.Cube K) : Option (Vec3 K) :=
  vectorChange (all || c.explicit.origin || c.explicit.bounds) c.origin live.effectiveOrigin <|>
    live.origin

variable {all : Bool} {c : Model.Cube K} (live : Live.Cube K)

lemma box_written (hlower : c.lower.near c.lower = true) (hupper : c.upper.near c.upper = true) :
    ((all || c.explicit.bounds) &&
      !(c.lower.near (newLower all c live) && c.upper.near (newUpper all c live))) = false := by
  cases hmoves : boxMoves all c live with
  | true => simp [newLower, newUpper, hmoves, hlower, hupper]
  | false =>
    simp only [newLower, newUpper, hmoves, Bool.false_eq_true, if_false, Option.getD_none]
    exact hmoves

lemma origin_written (horigin : c.origin.near c.origin = true) :
    vectorChange (all || c.explicit.origin || c.explicit.bounds) c.origin
        ((newOrigin all c live).getD (Vec3.center (newLower all c live) (newUpper all c live))) =
      if originStrays all c live then some c.origin else none := by
  have hcompare : boxMoves all c live = true →
      (all || c.explicit.origin || c.explicit.bounds) = true := by
    simp only [boxMoves, Bool.and_eq_true, Bool.or_eq_true]
    tauto
  rw [newOrigin]
  generalize (all || c.explicit.origin || c.explicit.bounds) = compare at hcompare ⊢
  by_cases hdiffers : compare = true ∧ c.origin.near live.effectiveOrigin = false
  · have hwritten : vectorChange compare c.origin live.effectiveOrigin = some c.origin := by
      simp [vectorChange, hdiffers.1, hdiffers.2]
    rw [hwritten]
    simp [vectorChange, horigin, originStrays, hdiffers.2]
  have hkept : vectorChange compare c.origin live.effectiveOrigin = none := by
    simpa [vectorChange] using hdiffers
  rw [hkept]
  change vectorChange compare c.origin (live.origin.getD _) = _
  cases ho : live.origin with
  | some origin =>
    -- an origin that is set stays where it is
    have heffective : live.effectiveOrigin = origin := by simp [Live.Cube.effectiveOrigin, ho]
    rw [heffective] at hkept
    simpa [originStrays, ho] using hkept
  | none =>
    have heffective : live.effectiveOrigin = Vec3.center live.lower live.upper := by
      simp [Live.Cube.effectiveOrigin, ho]
    cases hmoves : boxMoves all c live with
    | false =>
      rw [heffective] at hkept
      simpa [newLower, newUpper, originStrays, hmoves] using hkept
    | true =>
      have hnear : c.origin.near live.effectiveOrigin = true := by
        by_contra hfar
        exact hdiffers ⟨hcompare hmoves, Bool.eq_false_iff.mpr hfar⟩
      simp [newLower, newUpper, originStrays, hmoves, ho, hnear, hcompare hmoves, vectorChange,
        Model.Cube.center]

end Boxes

lemma diffCube_written {bones : Model.Bones Float} {all : Bool} {c : Model.Cube Float}
    (hc : c.isFinite = true) (live : Live.Cube Float) :
    diffCube bones all c (writtenCube bones all c live) =
      ({ origin := if originStrays all c live then some c.origin else none }, false) := by
  simp only [Model.Cube.isFinite, Bool.and_eq_true] at hc
  obtain ⟨⟨⟨⟨⟨hlower, hupper⟩, horigin⟩, hrotation⟩, hinflate⟩, huv⟩ := hc
  have hinflate' : ∀ value ∈ c.inflate, Scalar.near value value = true := by
    intro value hvalue
    rw [Option.mem_def.mp hvalue] at hinflate
    exact Scalar.near_self hinflate
  have huv' : ∀ value ∈ c.uvOffset, value.near value = true := by
    intro value hvalue
    rw [Option.mem_def.mp hvalue] at huv
    exact Vec2.near_self huv
  -- the written cube is seen through its fields only
  generalize hnext : writtenCube bones all c live = next
  have hid : next.id = (idChange (all || c.explicit.id) c.id live.id <|> live.id) := hnext ▸ rfl
  have hname : next.name = (nameChange (all || c.explicit.name) c.name live.name).getD live.name :=
    hnext ▸ rfl
  have hparent : next.parent = newCubeParent bones (all || c.explicit.parent) c.parent live.parent :=
    hnext ▸ rfl
  have hlower' : next.lower = newLower all c live := hnext ▸ rfl
  have hupper' : next.upper = newUpper all c live := hnext ▸ rfl
  have horigin' : next.origin = newOrigin all c live := hnext ▸ rfl
  have hrotation' : next.rotation =
      (vectorChange (all || c.explicit.rotation) c.rotation live.rotation).getD live.rotation :=
    hnext ▸ rfl
  have hinflation : next.inflate = (c.inflate.filter (fun value => (all || c.explicit.inflate) &&
      !Scalar.near value (live.inflate.getD Scalar.zero)) <|> live.inflate) := hnext ▸ rfl
  have hmirror : next.mirror = (switchChange (all || c.explicit.mirror) c.mirror
      (live.mirror.getD false) <|> live.mirror) := hnext ▸ rfl
  have hvisibility : next.visibility = (switchChange (all || c.explicit.visibility) c.visibility
      (live.visibility.getD true) <|> live.visibility) := hnext ▸ rfl
  have hboxUv : next.boxUv = (switchChange (all || c.explicit.boxUv) c.boxUv
      (live.boxUv.getD false) <|> live.boxUv) := hnext ▸ rfl
  have huvOffset : next.uvOffset = (c.uvOffset.filter (fun value => (all || c.explicit.uvOffset) &&
      !value.near (live.uvOffset.getD .zero)) <|> live.uvOffset) := hnext ▸ rfl
  simp only [diffCube, Live.Cube.effectiveOrigin, hid, hname, hparent, hlower', hupper', horigin',
    hrotation', hinflation, hmirror, hvisibility, hboxUv, huvOffset, idChange_written,
    nameChange_written, switchChange_written, cubeParent_written,
    box_written live (Vec3.near_self hlower) (Vec3.near_self hupper),
    origin_written live (Vec3.near_self horigin), vectorChange_written _ (Vec3.near_self hrotation),
    distance_written Scalar.near _ _ hinflate', distance_written Vec2.near _ _ huv',
    Bool.false_and, Bool.false_eq_true, if_false]

lemma diffCube_written_twice {bones : Model.Bones Float} {all : Bool} {c : Model.Cube Float}
    (hc : c.isFinite = true) (live : Live.Cube Float) :
    diffCube bones all c (writtenCube bones all c (writtenCube bones all c live)) = ({}, false) := by
  have hbox : boxMoves all c (writtenCube bones all c live) = false := by
    simp only [Model.Cube.isFinite, Bool.and_eq_true] at hc
    exact box_written live (Vec3.near_self hc.1.1.1.1.1) (Vec3.near_self hc.1.1.1.1.2)
  -- an origin strays only when the box moves, and the box has moved already
  have hstrays : originStrays all c (writtenCube bones all c live) = false := by
    simp [originStrays, hbox]
  rw [diffCube_written hc, hstrays]
  rfl

/-- After one update a bone is as desired, and so is a cube, unless its origin strays: then the origin
is different, and nothing else, and a second update is enough. -/
theorem diff_written (bones : Model.Bones Float) (all : Bool) {b : Model.Bone Float}
    {c : Model.Cube Float} (hb : b.isFinite = true) (hc : c.isFinite = true)
    (liveBone : Live.Bone Float) (liveCube : Live.Cube Float) :
    diffBone bones all b (writtenBone bones all b liveBone) = ({}, false) ∧
      diffCube bones all c (writtenCube bones all c liveCube) =
        ({ origin := if originStrays all c liveCube then some c.origin else none }, false) ∧
      diffCube bones all c (writtenCube bones all c (writtenCube bones all c liveCube)) =
        ({}, false) :=
  ⟨diffBone_written hb liveBone, diffCube_written hc liveCube, diffCube_written_twice hc liveCube⟩

def boxSpec : Spec Float where
  cubes := [{
    id := some "box"
    lower := some (Template.point 4 0 0)
    upper := some (Template.point 6 2 2)
    origin := some (Template.point 1 1 1) }]

def boxLive : Live.Cube Float :=
  { Live.Cube.named "box" with
    id := some "box", parent := some rootId, upper := Template.point 2 2 2 }

/-- The box moves, and the origin with it, although it was in place. -/
theorem origin_strays : ∃ model, Model.ofSpec .standard boxSpec = .ok model ∧
    ∃ c ∈ model.cubes.toList, c.isFinite = true ∧ boxLive.lower.isFinite = true ∧
      boxLive.upper.isFinite = true ∧ boxLive.rotation.isFinite = true ∧
      diffCube model.bones false c (writtenCube model.bones false c boxLive) ≠ ({}, false) := by
  obtain ⟨model, hm⟩ : ∃ model, Model.ofSpec .standard boxSpec = .ok model :=
    Attempts.exists_ok (by decide +kernel)
  have hstrays : ∃ c ∈ model.cubes.toList, c.isFinite = true ∧
      (diffCube model.bones false c (writtenCube model.bones false c boxLive)).1.origin.isSome := by
    apply Attempts.holds_of_all hm
    decide +kernel
  obtain ⟨c, hc, hfinite, horigin⟩ := hstrays
  refine ⟨model, hm, c, hc, hfinite, by decide +kernel, by decide +kernel, by decide +kernel, ?_⟩
  intro h
  rw [h] at horigin
  cases horigin

def desiredRoot : Model.Bone Float := .ofId rootId none

def desiredBox : Model.Cube Float :=
  { Model.Cube.ofBox "box" rootId (Template.point 4 0 0) (Template.point 6 2 2) with
    origin := Template.point 1 1 1 }

theorem diff_written_box :
    desiredRoot.isFinite = true ∧ desiredBox.isFinite = true ∧
      originStrays true desiredBox boxLive = true ∧
      diffBone .empty true desiredRoot
          (writtenBone .empty true desiredRoot (Live.Bone.named "bone")) = ({}, false) ∧
      diffCube .empty true desiredBox (writtenCube .empty true desiredBox boxLive) =
        ({ origin := if originStrays true desiredBox boxLive then some desiredBox.origin else none },
          false) ∧
      diffCube .empty true desiredBox
          (writtenCube .empty true desiredBox (writtenCube .empty true desiredBox boxLive)) =
        ({}, false) := by
  have hroot : desiredRoot.isFinite = true := by decide +kernel
  have hbox : desiredBox.isFinite = true := by decide +kernel
  have hstrays : originStrays true desiredBox boxLive = true := by decide +kernel
  exact ⟨hroot, hbox, hstrays, diff_written .empty true hroot hbox (Live.Bone.named "bone") boxLive⟩

end Armature.Plan
