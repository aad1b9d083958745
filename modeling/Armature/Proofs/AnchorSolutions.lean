import Armature.Proofs.Placements
import Armature.Proofs.SoundModels

/-! Positions that are settled one after another solve the equations that the anchors state, with the
same points whatever the order of the entities and the anchors. -/

namespace Armature.Model

variable {K : Type} [Scalar K]

namespace Anchored

def SameAt (a b : Anchored K) : Node → Prop
  | .anchor id => a.point? id = b.point? id
  | .bone id => a.bones.get? id = b.bones.get? id
  | .cube id => a.cubes.get? id = b.cubes.get? id

/-- The state once nodes are settled, the last one of the list first. -/
def after (anchors : List (Spec.Anchor K)) (start : Anchored K) (settled : List Node) : Anchored K :=
  settled.foldr (fun node a => a.settle anchors node) start

variable {anchors : List (Spec.Anchor K)} {a b c start : Anchored K} {node other : Node}
  {later earlier : List Node}

omit [Scalar K] in
lemma SameAt.trans (hab : a.SameAt b node) (hbc : b.SameAt c node) : a.SameAt c node := by
  cases node <;> exact Eq.trans hab hbc

lemma settle_sameAt (h : other ≠ node) : (a.settle anchors other).SameAt a node := by
  cases other with
  | anchor id =>
    simp only [settle]
    split
    · cases node <;> rfl
    · cases node with
      | anchor id' =>
        have hne : (id' == id) = false := beq_false_of_ne fun he => h (he ▸ rfl)
        simp only [SameAt, point?, List.lookup_cons, hne]
      | bone id' => rfl
      | cube id' => rfl
  | bone id =>
    cases node with
    | anchor id' => rfl
    | bone id' =>
      have hne : id ≠ id' := fun he => h (he ▸ rfl)
      rw [SameAt, settle, Roster.get?_modify_of_ne hne]
    | cube id' => rfl
  | cube id =>
    cases node with
    | anchor id' => rfl
    | bone id' => rfl
    | cube id' =>
      have hne : id ≠ id' := fun he => h (he ▸ rfl)
      rw [SameAt, settle, Roster.get?_modify_of_ne hne]

lemma after_sameAt (h : node ∉ later) :
    (after anchors start (later ++ earlier)).SameAt (after anchors start earlier) node := by
  induction later with
  | nil => cases node <;> rfl
  | cons first later ih =>
    obtain ⟨hne, hlater⟩ := List.ne_and_not_mem_of_not_mem_cons h
    exact (settle_sameAt hne.symm).trans (ih hlater)

lemma after_sameAt_start (h : node ∉ earlier) : (after anchors start earlier).SameAt start node := by
  rw [← List.append_nil earlier]
  exact after_sameAt h

lemma after_sameAt_before (hnodup : (later ++ node :: earlier).Nodup) :
    (after anchors start earlier).SameAt start node :=
  after_sameAt_start (List.nodup_cons.mp (List.nodup_append.mp hnodup).2.1).1

lemma after_sameAt_self (hnodup : (later ++ node :: earlier).Nodup) :
    (after anchors start (later ++ node :: earlier)).SameAt
      ((after anchors start earlier).settle anchors node) node := by
  have hlater : node ∉ later := fun hm =>
    (List.nodup_append.mp hnodup).2.2 node hm node List.mem_cons_self rfl
  exact after_sameAt hlater

lemma after_sameAt_earlier (hnodup : (later ++ node :: earlier).Nodup) (h : other ∈ earlier) :
    (after anchors start (later ++ node :: earlier)).SameAt (after anchors start earlier) other := by
  rw [List.append_cons] at hnodup ⊢
  exact after_sameAt fun hm => (List.nodup_append.mp hnodup).2.2 other hm other h rfl

omit [Scalar K] in
lemma SameAt.base_eq [Scalar K] {target : Spec.Target} (h : a.SameAt b (targetNode target)) :
    a.base target = b.base target := by
  cases target with
  | bone id => exact congrArg (Option.elim · .zero Bone.pivot) h
  | cube id => exact congrArg (Option.elim · .zero Cube.anchorPoint) h

variable {bones : Bones K} {cubes : Cubes K} {settled : List Node} {id : String}

/-- The point of an anchor; any point where there is none. -/
def pointAt (a : Anchored K) (id : String) : Vec3 K := (a.point? id).getD .zero

lemma point?_after (start : Anchored K)
    (hordered : (positions anchors bones cubes).Postordered settled)
    (hnodup : settled.Nodup) (h : .anchor id ∈ settled) :
    ∃ anchor index, anchor? anchors id = some (anchor, index) ∧
      Present bones cubes anchor.target ∧
      (after anchors start settled).point? id =
        some ((after anchors start settled).base anchor.target + anchor.offset.getD .zero) := by
  obtain ⟨later, earlier, rfl⟩ := List.append_of_mem h
  obtain ⟨⟨needed, hof, hsub⟩, -⟩ := hordered.of_append
  obtain ⟨anchor, index, hfind, hpresent, rfl⟩ := needed_anchor.mp hof
  have htarget : targetNode anchor.target ∈ earlier := hsub (List.mem_singleton_self _)
  have hself : (after anchors start (later ++ .anchor id :: earlier)).point? id = _ :=
    after_sameAt_self hnodup
  refine ⟨anchor, index, hfind, hpresent, ?_⟩
  rw [hself, (after_sameAt_earlier hnodup htarget).base_eq]
  simp [settle, hfind, point?]

lemma bind_point?_after (start : Anchored K)
    (hordered : (positions anchors bones cubes).Postordered settled)
    (hnodup : settled.Nodup) {reference : Option String}
    (h : ∀ id ∈ reference, .anchor id ∈ settled) :
    reference.bind (after anchors start settled).point? =
      reference.map (after anchors start settled).pointAt := by
  cases reference with
  | none => rfl
  | some id =>
    obtain ⟨anchor, index, -, -, hpoint⟩ := point?_after start hordered hnodup (h id rfl)
    simp [pointAt, hpoint]

omit [Scalar K] in
lemma bind_point?_eq {reference : Option String}
    (h : ∀ id ∈ reference, a.SameAt b (.anchor id)) :
    reference.bind a.point? = reference.bind b.point? := by
  cases reference with
  | none => rfl
  | some id => exact h id rfl

lemma bone_after (hordered : (positions anchors bones cubes).Postordered settled)
    (hnodup : settled.Nodup) {bone : Bone K} (hbone : bone ∈ bones.toList)
    (h : .bone bone.id ∈ settled) :
    (after anchors { bones, cubes } settled).bones.get? bone.id =
      some (bone.pivotAt
        (bone.pivotAnchor.map (after anchors { bones, cubes } settled).pointAt)) := by
  have hget : bones.get? bone.id = some bone := Roster.get?_eq_some.mpr ⟨hbone, rfl⟩
  obtain ⟨later, earlier, rfl⟩ := List.append_of_mem h
  obtain ⟨⟨l, hof, hsub⟩, -⟩ := hordered.of_append
  have hneeded : needed anchors bones cubes (.bone bone.id) = _ := needed_bone hbone
  obtain rfl := Except.ok.inj (hneeded.symm.trans hof)
  have hanchor : ∀ id ∈ bone.pivotAnchor, .anchor id ∈ earlier := fun id hid =>
    hsub (by simpa using hid)
  -- the bone is as it was at the start when its turn comes
  have hstart : (after anchors { bones, cubes } earlier).bones.get? bone.id = bones.get? bone.id :=
    after_sameAt_before hnodup
  have hself : (after anchors { bones, cubes } (later ++ .bone bone.id :: earlier)).bones.get?
      bone.id = _ := after_sameAt_self hnodup
  rw [hget] at hstart
  rw [← bind_point?_after _ hordered hnodup fun id hid => by simp [hanchor id hid],
    bind_point?_eq fun id hid => after_sameAt_earlier hnodup (hanchor id hid), hself, settle,
    Roster.get?_modify, hstart]
  rfl

lemma cube_after (hordered : (positions anchors bones cubes).Postordered settled)
    (hnodup : settled.Nodup) {cube : Cube K} (hcube : cube ∈ cubes.toList)
    (h : .cube cube.id ∈ settled) :
    (after anchors { bones, cubes } settled).cubes.get? cube.id =
      some (cube.placeAt (cube.centerAnchor.map (after anchors { bones, cubes } settled).pointAt)
        (cube.originAnchor.map (after anchors { bones, cubes } settled).pointAt)) := by
  have hget : cubes.get? cube.id = some cube := Roster.get?_eq_some.mpr ⟨hcube, rfl⟩
  obtain ⟨later, earlier, rfl⟩ := List.append_of_mem h
  obtain ⟨⟨l, hof, hsub⟩, -⟩ := hordered.of_append
  have hneeded : needed anchors bones cubes (.cube cube.id) = _ := needed_cube hcube
  obtain rfl := Except.ok.inj (hneeded.symm.trans hof)
  have hcenter : ∀ id ∈ cube.centerAnchor, .anchor id ∈ earlier := fun id hid =>
    hsub (by simp [Option.mem_def.mp hid])
  have horigin : ∀ id ∈ cube.originAnchor, .anchor id ∈ earlier := fun id hid =>
    hsub (by simp [Option.mem_def.mp hid])
  have hstart : (after anchors { bones, cubes } earlier).cubes.get? cube.id = cubes.get? cube.id :=
    after_sameAt_before hnodup
  have hself : (after anchors { bones, cubes } (later ++ .cube cube.id :: earlier)).cubes.get?
      cube.id = _ := after_sameAt_self hnodup
  rw [hget] at hstart
  rw [← bind_point?_after _ hordered hnodup fun id hid => by simp [hcenter id hid],
    ← bind_point?_after _ hordered hnodup fun id hid => by simp [horigin id hid],
    bind_point?_eq fun id hid => after_sameAt_earlier hnodup (hcenter id hid),
    bind_point?_eq fun id hid => after_sameAt_earlier hnodup (horigin id hid), hself, settle,
    Roster.get?_modify, hstart]
  rfl

end Anchored

section Solutions

variable {anchors : List (Spec.Anchor K)} {bones : Bones K} {cubes : Cubes K} {settled : List Node}

lemma basePoint_base {a : Anchored K} {target : Spec.Target}
    (h : Present a.bones a.cubes target) : BasePoint (a.bones, a.cubes) target (a.base target) := by
  cases target with
  | bone id =>
    obtain ⟨bone, hget⟩ := Option.isSome_iff_exists.mp (Roster.contains_iff.mpr h)
    exact basePoint_bone.mpr ⟨bone, hget, by simp only [Anchored.base, hget, Option.elim]⟩
  | cube id =>
    obtain ⟨cube, hget⟩ := Option.isSome_iff_exists.mp (Roster.contains_iff.mpr h)
    exact basePoint_cube.mpr ⟨cube, hget, by simp only [Anchored.base, hget, Option.elim]⟩

lemma solution_after (hdistinct : (anchors.map Spec.Anchor.id).Nodup)
    (hordered : (positions anchors bones cubes).Postordered settled) (hnodup : settled.Nodup)
    (hnodes : (positions anchors bones cubes).nodes ⊆ settled) :
    let final := Anchored.after anchors { bones, cubes } settled
    Solution anchors bones cubes final.pointAt (final.bones, final.cubes) := by
  intro final
  obtain ⟨hbones, hcubes⟩ : final.bones.ids = bones.ids ∧ final.cubes.ids = cubes.ids := by
    obtain ⟨hb, hc⟩ := foldl_settle_frames anchors settled.reverse { bones, cubes }
    rw [List.foldl_reverse] at hb hc
    have hids := congrArg (List.map (·.1)) hc
    simp only [List.map_map] at hids
    exact ⟨by rw [bones_ids_eq, bones_ids_eq]; exact congrArg _ hb, hids⟩
  refine solution_iff.mpr ⟨fun anchor hanchor => ?_, Prod.ext ?_ ?_⟩
  · obtain ⟨index, hfind⟩ := anchor?_of_mem hdistinct hanchor
    have hm := hnodes (mem_nodes_anchor hanchor)
    obtain ⟨anchor', index', hfind', hpresent, hpoint⟩ :=
      Anchored.point?_after { bones, cubes } hordered hnodup hm
    obtain ⟨rfl, -⟩ : anchor = anchor' ∧ index = index' := by simpa using hfind.symm.trans hfind'
    have hfinal : Present final.bones final.cubes anchor.target := by
      cases htarget : anchor.target <;> simpa [htarget, Present, hbones, hcubes] using hpresent
    exact ⟨_, basePoint_base hfinal, by rw [Anchored.pointAt, hpoint]; rfl⟩
  · refine Roster.ext_of_toList (Roster.toList_eq_map hbones fun bone hbone => ?_)
    exact Anchored.bone_after hordered hnodup hbone (hnodes (mem_nodes_bone hbone))
  · refine Roster.ext_of_toList (Roster.toList_eq_map hcubes fun cube hcube => ?_)
    exact Anchored.cube_after hordered hnodup hcube (hnodes (mem_nodes_cube hcube))

end Solutions

section Resolution

variable {spec spec' : Spec K} {bones bones' : Bones K} {cubes cubes' : Cubes K}
  {point : String → Vec3 K} {placed : Bones K × Cubes K}

lemma resolveAnchors_solution (h : spec.anchors ≠ [])
    (hplaced : resolveAnchors spec bones cubes = .ok placed) :
    ∃ point, Solution spec.anchors bones cubes point placed ∧
      ∀ point' placed', Solution spec.anchors bones cubes point' placed' →
        placed' = placed ∧ ∀ anchor ∈ spec.anchors, point' anchor.id = point anchor.id := by
  rw [resolveAnchors, if_neg (by simpa using h)] at hplaced
  obtain ⟨hdistinct, hplaced⟩ := Attempts.then_ok.mp hplaced
  obtain ⟨order, horder, hplaced⟩ := Attempts.bind_ok.mp hplaced
  obtain ⟨settled, rfl, hordered, hnodup, hnodes⟩ := Needs.exists_settled horder
  obtain rfl := Except.ok.inj hplaced
  rw [List.foldl_reverse]
  have hsolution := solution_after (checkAnchors_zipIdx.mp hdistinct) hordered hnodup hnodes
  exact ⟨_, hsolution, fun point' placed' h' => hsolution.unique h' hordered hnodes⟩

lemma exists_placed (h : spec.anchors ≠ []) (hw : Anchorable spec.anchors bones cubes)
    (hnone : NoCycle (PlacedBy spec.anchors bones cubes)) :
    ∃ placed, resolveAnchors spec bones cubes = .ok placed := by
  cases hplaced : resolveAnchors spec bones cubes with
  | ok placed => exact ⟨placed, rfl⟩
  | error fault =>
    rcases resolveAnchors_error h hplaced with ⟨hnot, -⟩ | ⟨_, node, -, -, hcycle⟩
    · exact (hnot hw).elim
    · exact (hnone node hcycle).elim

section Order

variable {anchors anchors' : List (Spec.Anchor K)} (hanchors : anchors.Perm anchors')
  (hbones : bones.toList.Perm bones'.toList) (hcubes : cubes.toList.Perm cubes'.toList)

include hanchors hbones hcubes

omit [Scalar K] in
lemma Anchorable.perm (h : Anchorable anchors bones cubes) : Anchorable anchors' bones' cubes' where
  distinct := (hanchors.map _).nodup_iff.mp h.distinct
  pivots bone hbone id hid :=
    (hanchors.map _).mem_iff.mp (h.pivots bone (hbones.mem_iff.mpr hbone) id hid)
  centers cube hcube id hid :=
    (hanchors.map _).mem_iff.mp (h.centers cube (hcubes.mem_iff.mpr hcube) id hid)
  origins cube hcube id hid :=
    (hanchors.map _).mem_iff.mp (h.origins cube (hcubes.mem_iff.mpr hcube) id hid)
  targets anchor hanchor := by
    have hpresent := h.targets anchor (hanchors.mem_iff.mpr hanchor)
    cases htarget : anchor.target with
    | bone id =>
      rw [htarget] at hpresent
      exact (hbones.map _).mem_iff.mp hpresent
    | cube id =>
      rw [htarget] at hpresent
      exact (hcubes.map _).mem_iff.mp hpresent

omit [Scalar K] in
lemma PlacedBy.perm {a b : Node} (h : PlacedBy anchors bones cubes a b) :
    PlacedBy anchors' bones' cubes' a b := by
  cases h with
  | pivot hbone hanchor => exact .pivot (hbones.mem_iff.mp hbone) hanchor
  | center hcube hanchor => exact .center (hcubes.mem_iff.mp hcube) hanchor
  | origin hcube hanchor => exact .origin (hcubes.mem_iff.mp hcube) hanchor
  | target hanchor => exact .target (hanchors.mem_iff.mp hanchor)

end Order

lemma resolveAnchors_perm (h : spec.anchors ≠ []) (hanchors : spec.anchors.Perm spec'.anchors)
    (hbones : bones.toList.Perm bones'.toList) (hcubes : cubes.toList.Perm cubes'.toList)
    (hplaced : resolveAnchors spec bones cubes = .ok placed)
    (hsolution : Solution spec.anchors bones cubes point placed) :
    resolveAnchors spec' bones' cubes' = .ok (bonesAt point bones', cubesAt point cubes') := by
  have h' : spec'.anchors ≠ [] := fun hnil => h (List.perm_nil.mp (hnil ▸ hanchors))
  obtain ⟨hw, hnone⟩ := resolveAnchors_ok h hplaced
  have hnone' : NoCycle (PlacedBy spec'.anchors bones' cubes') := fun a hc =>
    hnone a (Relation.TransGen.mono
      (fun _ _ => PlacedBy.perm hanchors.symm hbones.symm hcubes.symm) _ _ hc)
  obtain ⟨placed', hplaced'⟩ := exists_placed h' (hw.perm hanchors hbones hcubes) hnone'
  obtain ⟨point', -, hunique⟩ := resolveAnchors_solution h' hplaced'
  obtain ⟨rfl, -⟩ := hunique _ _ (hsolution.perm hanchors hbones hcubes)
  exact hplaced'

end Resolution

end Armature.Model
