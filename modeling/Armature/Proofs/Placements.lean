import Armature.Proofs.AnchorGraphs

/-! Where anchors put things: the equations that they state between their own points and the entities
that are placed. One solution at most goes with an order in which each position comes after those
that it is taken from. -/

namespace Armature.Model

variable {K : Type}

section Bones

variable {point : String → Vec3 K} {before after : Bone K}

structure BonePlaced (point : String → Vec3 K) (before after : Bone K) : Prop where
  kept : before.pivotAnchor = none → after.pivot = before.pivot
  pivot : ∀ id ∈ before.pivotAnchor, after.pivot = point id
  rest : after = { before with pivot := after.pivot }

def Bone.pivotAt (b : Bone K) (pivot : Option (Vec3 K)) : Bone K :=
  { b with pivot := pivot.getD b.pivot }

lemma Bone.id_pivotAt (b : Bone K) (pivot : Option (Vec3 K)) :
    Identified.id (b.pivotAt pivot) = Identified.id b := rfl

lemma bonePlaced_iff :
    BonePlaced point before after ↔ after = before.pivotAt (before.pivotAnchor.map point) := by
  constructor
  · intro h
    have hpivot : after.pivot = (before.pivotAnchor.map point).getD before.pivot := by
      cases hanchor : before.pivotAnchor with
      | none => exact h.kept hanchor
      | some id => exact h.pivot id hanchor
    rw [h.rest, hpivot, Bone.pivotAt]
  · rintro rfl
    refine ⟨fun hanchor => ?_, fun id hanchor => ?_, rfl⟩
    · rw [hanchor]
      rfl
    · rw [Option.mem_def.mp hanchor]
      rfl

end Bones

variable [Scalar K]

section Cubes

variable {point : String → Vec3 K} {before after : Cube K}

structure CubePlaced (point : String → Vec3 K) (before after : Cube K) : Prop where
  box_kept : before.centerAnchor = none → after.lower = before.lower ∧ after.upper = before.upper
  box : ∀ id ∈ before.centerAnchor,
    after.lower = point id - (before.upper - before.lower).scale Scalar.half ∧
      after.upper = point id + (before.upper - before.lower).scale Scalar.half
  origin_kept : before.originAnchor = none →
    before.centerAnchor = none ∨ before.explicit.origin = true → after.origin = before.origin
  /-- The box takes along an origin that the caller did not set. -/
  origin_along : before.originAnchor = none → before.explicit.origin = false →
    ∀ id ∈ before.centerAnchor, after.origin = point id
  origin : ∀ id ∈ before.originAnchor, after.origin = point id
  rest : after = { before with lower := after.lower, upper := after.upper, origin := after.origin }

lemma Cube.placeAt_eq (c : Cube K) (center origin : Option (Vec3 K)) :
    c.placeAt center origin =
      { c with
        lower := (c.placeAt center origin).lower
        upper := (c.placeAt center origin).upper
        origin := (c.placeAt center origin).origin } := by
  cases center <;> cases origin <;> rfl

lemma cubePlaced_iff : CubePlaced point before after ↔
    after = before.placeAt (before.centerAnchor.map point) (before.originAnchor.map point) := by
  constructor
  · intro h
    let placed := before.placeAt (before.centerAnchor.map point) (before.originAnchor.map point)
    have hbox : after.lower = placed.lower ∧ after.upper = placed.upper := by
      simp only [placed]
      cases hcenter : before.centerAnchor with
      | none => cases before.originAnchor <;> exact h.box_kept hcenter
      | some id => cases before.originAnchor <;> exact h.box id hcenter
    have horigin : after.origin = placed.origin := by
      simp only [placed]
      cases hanchor : before.originAnchor with
      | some id => exact h.origin id hanchor
      | none =>
        cases hcenter : before.centerAnchor with
        | none => exact h.origin_kept hanchor (.inl hcenter)
        | some id =>
          cases hset : before.explicit.origin with
          | false =>
            have halong := h.origin_along hanchor hset id hcenter
            simpa [Cube.placeAt, Cube.centerAt, hset] using halong
          | true =>
            have hkept := h.origin_kept hanchor (.inr hset)
            simpa [Cube.placeAt, Cube.centerAt, hset] using hkept
    rw [h.rest, hbox.1, hbox.2, horigin, ← Cube.placeAt_eq]
  · rintro rfl
    refine { rest := before.placeAt_eq _ _, box_kept := ?_, box := ?_, origin_kept := ?_,
             origin_along := ?_, origin := ?_ } <;>
      cases before.centerAnchor <;> cases before.originAnchor <;>
      simp_all [Cube.placeAt, Cube.centerAt, Cube.originAt, Cube.extent, Vec3.extent]

end Cubes

section Solutions

variable {anchors : List (Spec.Anchor K)} {bones : Bones K} {cubes : Cubes K}
  {point point' : String → Vec3 K} {placed placed' : Bones K × Cubes K} {settled : List Node}

/-- The point of an entity, where it has come to rest, that anchors on it are attached to. -/
inductive BasePoint (placed : Bones K × Cubes K) : Spec.Target → Vec3 K → Prop
  | pivot {bone : Bone K} (hbone : bone ∈ placed.1.toList) :
      BasePoint placed (.bone bone.id) bone.pivot
  | origin {cube : Cube K} (hcube : cube ∈ placed.2.toList) (hset : cube.explicit.origin = true) :
      BasePoint placed (.cube cube.id) cube.origin
  | center {cube : Cube K} (hcube : cube ∈ placed.2.toList) (hset : cube.explicit.origin = false) :
      BasePoint placed (.cube cube.id) (Vec3.center cube.lower cube.upper)

/-- Points for the anchors, and the entities where these have them. -/
structure Solution (anchors : List (Spec.Anchor K)) (bones : Bones K) (cubes : Cubes K)
    (point : String → Vec3 K) (placed : Bones K × Cubes K) : Prop where
  points : ∀ anchor ∈ anchors, ∃ base, BasePoint placed anchor.target base ∧
    point anchor.id = base + anchor.offset.getD .zero
  bones : List.Forall₂ (BonePlaced point) bones.toList placed.1.toList
  cubes : List.Forall₂ (CubePlaced point) cubes.toList placed.2.toList

omit [Scalar K] in
lemma forall₂_iff_eq_map {α β : Type} {R : α → β → Prop} {f : α → β} (h : ∀ a b, R a b ↔ b = f a)
    {l : List α} {l' : List β} : List.Forall₂ R l l' ↔ l' = l.map f := by
  have hR : R = fun a b => f a = b := by
    funext a b
    exact propext ((h a b).trans eq_comm)
  rw [hR, ← List.forall₂_map_left_iff, List.forall₂_eq_eq_eq, eq_comm]

def bonesAt (point : String → Vec3 K) (bones : Bones K) : Bones K :=
  bones.map (fun bone => bone.pivotAt (bone.pivotAnchor.map point)) fun bone => bone.id_pivotAt _

def cubesAt (point : String → Vec3 K) (cubes : Cubes K) : Cubes K :=
  cubes.map (fun cube => cube.placeAt (cube.centerAnchor.map point) (cube.originAnchor.map point))
    fun cube => cube.id_placeAt _ _

lemma solution_iff : Solution anchors bones cubes point placed ↔
    (∀ anchor ∈ anchors, ∃ base, BasePoint placed anchor.target base ∧
      point anchor.id = base + anchor.offset.getD .zero) ∧
    placed = (bonesAt point bones, cubesAt point cubes) := by
  have hplaced : placed = (bonesAt point bones, cubesAt point cubes) ↔
      List.Forall₂ (BonePlaced point) bones.toList placed.1.toList ∧
        List.Forall₂ (CubePlaced point) cubes.toList placed.2.toList := by
    rw [forall₂_iff_eq_map fun _ _ => bonePlaced_iff, forall₂_iff_eq_map fun _ _ => cubePlaced_iff]
    refine ⟨?_, fun ⟨hbones, hcubes⟩ => ?_⟩
    · rintro rfl
      exact ⟨rfl, rfl⟩
    · exact Prod.ext (Roster.ext_of_toList hbones) (Roster.ext_of_toList hcubes)
  rw [hplaced]
  exact ⟨fun h => ⟨h.points, h.bones, h.cubes⟩, fun ⟨hpoints, hbones, hcubes⟩ =>
    ⟨hpoints, hbones, hcubes⟩⟩

lemma basePoint_bone {id : String} {base : Vec3 K} : BasePoint placed (.bone id) base ↔
    ∃ bone, placed.1.get? id = some bone ∧ base = bone.pivot := by
  constructor
  · intro h
    cases h with
    | pivot hbone => exact ⟨_, Roster.get?_eq_some.mpr ⟨hbone, rfl⟩, rfl⟩
  · rintro ⟨bone, hget, rfl⟩
    obtain ⟨hbone, rfl⟩ := Roster.get?_eq_some.mp hget
    exact .pivot hbone

lemma basePoint_cube {id : String} {base : Vec3 K} : BasePoint placed (.cube id) base ↔
    ∃ cube, placed.2.get? id = some cube ∧ base = cube.anchorPoint := by
  constructor
  · intro h
    cases h with
    | origin hcube hset =>
      exact ⟨_, Roster.get?_eq_some.mpr ⟨hcube, rfl⟩, by simp [Cube.anchorPoint, hset]⟩
    | center hcube hset =>
      exact ⟨_, Roster.get?_eq_some.mpr ⟨hcube, rfl⟩, by simp [Cube.anchorPoint, hset, Cube.center]⟩
  · rintro ⟨cube, hget, rfl⟩
    obtain ⟨hcube, rfl⟩ := Roster.get?_eq_some.mp hget
    rw [Cube.anchorPoint]
    split
    · next hset => exact .origin hcube hset
    · next hset => exact .center hcube (by simpa using hset)

lemma BasePoint.mono {target : Spec.Target} {base : Vec3 K} (h : BasePoint placed target base)
    (hbones : placed.1.toList ⊆ placed'.1.toList) (hcubes : placed.2.toList ⊆ placed'.2.toList) :
    BasePoint placed' target base := by
  cases h with
  | pivot hbone => exact .pivot (hbones hbone)
  | origin hcube hset => exact .origin (hcubes hcube) hset
  | center hcube hset => exact .center (hcubes hcube) hset

def AgreeAt (point point' : String → Vec3 K) (placed placed' : Bones K × Cubes K) : Node → Prop
  | .anchor id => point id = point' id
  | .bone id => placed.1.get? id = placed'.1.get? id
  | .cube id => placed.2.get? id = placed'.2.get? id

lemma base_unique {base base' : Vec3 K} {target : Spec.Target}
    (hagree : AgreeAt point point' placed placed' (targetNode target))
    (hbase : BasePoint placed target base) (hbase' : BasePoint placed' target base') :
    base = base' := by
  cases target with
  | bone id =>
    obtain ⟨bone, hget, rfl⟩ := basePoint_bone.mp hbase
    obtain ⟨bone', hget', rfl⟩ := basePoint_bone.mp hbase'
    obtain rfl := Option.some.inj ((hget.symm.trans hagree).trans hget')
    rfl
  | cube id =>
    obtain ⟨cube, hget, rfl⟩ := basePoint_cube.mp hbase
    obtain ⟨cube', hget', rfl⟩ := basePoint_cube.mp hbase'
    obtain rfl := Option.some.inj ((hget.symm.trans hagree).trans hget')
    rfl

omit [Scalar K] in
lemma map_point_eq {reference : Option String}
    (h : ∀ id ∈ reference, AgreeAt point point' placed placed' (.anchor id)) :
    reference.map point = reference.map point' := by
  cases reference with
  | none => rfl
  | some id => exact congrArg some (h id rfl)

namespace Solution

lemma get?_bone (h : Solution anchors bones cubes point placed) {bone : Bone K}
    (hbone : bone ∈ bones.toList) :
    placed.1.get? bone.id = some (bone.pivotAt (bone.pivotAnchor.map point)) := by
  have hget : bones.get? bone.id = some bone := Roster.get?_eq_some.mpr ⟨hbone, rfl⟩
  have hbones : placed.1 = bonesAt point bones := congrArg Prod.fst (solution_iff.mp h).2
  rw [hbones, bonesAt, Roster.get?_map, hget]
  rfl

lemma get?_cube (h : Solution anchors bones cubes point placed) {cube : Cube K}
    (hcube : cube ∈ cubes.toList) : placed.2.get? cube.id =
      some (cube.placeAt (cube.centerAnchor.map point) (cube.originAnchor.map point)) := by
  have hget : cubes.get? cube.id = some cube := Roster.get?_eq_some.mpr ⟨hcube, rfl⟩
  have hcubes : placed.2 = cubesAt point cubes := congrArg Prod.snd (solution_iff.mp h).2
  rw [hcubes, cubesAt, Roster.get?_map, hget]
  rfl

lemma agreeAt (h : Solution anchors bones cubes point placed)
    (h' : Solution anchors bones cubes point' placed')
    (hordered : (positions anchors bones cubes).Postordered settled) :
    ∀ node ∈ settled, AgreeAt point point' placed placed' node := by
  -- each node follows from those that it needs, which are settled before it
  induction settled with
  | nil => simp
  | cons node settled ih =>
    obtain ⟨⟨l, hof, hsub⟩, hordered⟩ := hordered
    have hneeded : ∀ other ∈ l, AgreeAt point point' placed placed' other := fun other hother =>
      ih hordered other (hsub hother)
    change needed anchors bones cubes node = .ok l at hof
    refine List.forall_mem_cons.mpr ⟨?_, ih hordered⟩
    cases node with
    | anchor id =>
      obtain ⟨anchor, index, hfind, -, rfl⟩ := needed_anchor.mp hof
      obtain ⟨hanchor, rfl⟩ := anchor?_spec hfind
      obtain ⟨base, hbase, hpoint⟩ := h.points anchor hanchor
      obtain ⟨base', hbase', hpoint'⟩ := h'.points anchor hanchor
      have htarget := hneeded _ (List.mem_singleton_self _)
      rw [AgreeAt, hpoint, hpoint', base_unique htarget hbase hbase']
    | bone id =>
      obtain ⟨bone, hbone, rfl⟩ := exists_of_needed_bone hof
      obtain rfl := Except.ok.inj ((needed_bone hbone).symm.trans hof)
      rw [AgreeAt, h.get?_bone hbone, h'.get?_bone hbone,
        map_point_eq fun id hid => hneeded (.anchor id) (by simpa using hid)]
    | cube id =>
      obtain ⟨cube, hcube, rfl⟩ := exists_of_needed_cube hof
      obtain rfl := Except.ok.inj ((needed_cube hcube).symm.trans hof)
      have hcenter : ∀ id ∈ cube.centerAnchor, AgreeAt point point' placed placed' (.anchor id) :=
        fun id hid => hneeded _ (by simp [Option.mem_def.mp hid])
      have horigin : ∀ id ∈ cube.originAnchor, AgreeAt point point' placed placed' (.anchor id) :=
        fun id hid => hneeded _ (by simp [Option.mem_def.mp hid])
      rw [AgreeAt, h.get?_cube hcube, h'.get?_cube hcube, map_point_eq hcenter, map_point_eq horigin]

lemma unique (h : Solution anchors bones cubes point placed)
    (h' : Solution anchors bones cubes point' placed')
    (hordered : (positions anchors bones cubes).Postordered settled)
    (hnodes : (positions anchors bones cubes).nodes ⊆ settled) :
    placed' = placed ∧ ∀ anchor ∈ anchors, point' anchor.id = point anchor.id := by
  have hagree := h'.agreeAt h hordered
  refine ⟨?_, fun anchor hanchor => hagree (.anchor anchor.id) (hnodes (mem_nodes_anchor hanchor))⟩
  rw [(solution_iff.mp h).2, (solution_iff.mp h').2]
  refine Prod.ext (Roster.ext_of_toList ?_) (Roster.ext_of_toList ?_)
  · refine List.map_congr_left fun bone hbone => ?_
    have hsame : placed'.1.get? bone.id = placed.1.get? bone.id :=
      hagree (.bone bone.id) (hnodes (mem_nodes_bone hbone))
    rw [h.get?_bone hbone, h'.get?_bone hbone] at hsame
    exact Option.some.inj hsame
  · refine List.map_congr_left fun cube hcube => ?_
    have hsame : placed'.2.get? cube.id = placed.2.get? cube.id :=
      hagree (.cube cube.id) (hnodes (mem_nodes_cube hcube))
    rw [h.get?_cube hcube, h'.get?_cube hcube] at hsame
    exact Option.some.inj hsame

lemma perm {anchors' : List (Spec.Anchor K)} {bones' : Bones K} {cubes' : Cubes K}
    (hanchors : anchors.Perm anchors') (hbones : bones.toList.Perm bones'.toList)
    (hcubes : cubes.toList.Perm cubes'.toList) (h : Solution anchors bones cubes point placed) :
    Solution anchors' bones' cubes' point (bonesAt point bones', cubesAt point cubes') := by
  obtain ⟨hpoints, rfl⟩ := solution_iff.mp h
  refine solution_iff.mpr ⟨fun anchor hanchor => ?_, rfl⟩
  obtain ⟨base, hbase, hpoint⟩ := hpoints anchor (hanchors.mem_iff.mpr hanchor)
  exact ⟨base, hbase.mono (hbones.map _).subset (hcubes.map _).subset, hpoint⟩

end Solution

end Solutions

end Armature.Model
