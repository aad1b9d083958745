import Armature.Model.WorkList
import Armature.Proofs.AnchorSolutions

/-! The loop over a list of work: it ends in one way, and a turn takes what its node needs from the
entities as they were at the start. -/

namespace Armature.Model

variable {K : Type} [Scalar K]

section Unique

variable {anchors : List (Spec.Anchor K)} {frames : List Frame} {nodes : List Node} {r : Resolver K}
  {out out' : Except (Fault K) (Resolver K)}

lemma Runs.unique (h : Runs anchors frames r out) (h' : Runs anchors frames r out') :
    out = out' := by
  -- the first turn decides by which rule both runs go on
  induction h with
  | done =>
    cases h' with
    | done => rfl
  | settled hturn _ ih =>
    cases h' with
    | settled hturn' hrest' =>
      cases hturn.symm.trans hturn'
      exact ih hrest'
    | waits hturn' => cases hturn.symm.trans hturn'
    | fails hturn' => cases hturn.symm.trans hturn'
  | waits hturn _ ih =>
    cases h' with
    | settled hturn' => cases hturn.symm.trans hturn'
    | waits hturn' hrest' =>
      cases hturn.symm.trans hturn'
      exact ih hrest'
    | fails hturn' => cases hturn.symm.trans hturn'
  | fails hturn =>
    cases h' with
    | settled hturn' => cases hturn.symm.trans hturn'
    | waits hturn' => cases hturn.symm.trans hturn'
    | fails hturn' =>
      cases hturn.symm.trans hturn'
      rfl

lemma RunsAll.unique (h : RunsAll anchors nodes r out) (h' : RunsAll anchors nodes r out') :
    out = out' := by
  induction h with
  | done =>
    cases h' with
    | done => rfl
  | next hrun _ ih =>
    cases h' with
    | next hrun' hrest' =>
      cases hrun.unique hrun'
      exact ih hrest'
    | fails hrun' => cases hrun.unique hrun'
  | fails hrun =>
    cases h' with
    | next hrun' => cases hrun.unique hrun'
    | fails hrun' => exact hrun.unique hrun'

lemma LoopEnds.unique {spec : Spec K} {bones : Bones K} {cubes : Cubes K}
    {out out' : Except (Fault K) (Bones K × Cubes K)} (h : LoopEnds spec bones cubes out)
    (h' : LoopEnds spec bones cubes out') : out = out' := by
  unfold LoopEnds at h h'
  cases hcheck : checkAnchors [] spec.anchors.zipIdx with
  | error fault =>
    rw [hcheck] at h h'
    exact h.trans h'.symm
  | ok =>
    rw [hcheck] at h h'
    obtain ⟨last, hlast, rfl⟩ := h
    obtain ⟨last', hlast', rfl⟩ := h'
    rw [hlast.unique hlast']

end Unique

section Needed

variable {anchors : List (Spec.Anchor K)} {bones bones' : Bones K} {cubes cubes' : Cubes K}

omit [Scalar K] in
lemma needed_congr
    (hbones : ∀ id, (bones'.get? id).map Bone.pivotAnchor = (bones.get? id).map Bone.pivotAnchor)
    (hcubes : ∀ id, (cubes'.get? id).map (fun c => (c.centerAnchor, c.originAnchor)) =
      (cubes.get? id).map fun c => (c.centerAnchor, c.originAnchor)) (node : Node) :
    needed anchors bones' cubes' node = needed anchors bones cubes node := by
  have hbone (id : String) : bones'.contains id = bones.contains id := by
    simpa [Roster.contains] using congrArg Option.isSome (hbones id)
  have hcube (id : String) : cubes'.contains id = cubes.contains id := by
    simpa [Roster.contains] using congrArg Option.isSome (hcubes id)
  cases node with
  | anchor id => simp only [needed, hbone, hcube]
  | bone id =>
    have hsame := hbones id
    cases hget : bones.get? id <;> cases hget' : bones'.get? id <;> simp_all [needed]
  | cube id =>
    have hsame := hcubes id
    cases hget : cubes.get? id <;> cases hget' : cubes'.get? id <;> simp_all [needed]

lemma needed_settle (a : Anchored K) (other node : Node) :
    needed anchors (a.settle anchors other).bones (a.settle anchors other).cubes node =
      needed anchors a.bones a.cubes node := by
  cases other with
  | anchor id =>
    simp only [Anchored.settle]
    split <;> rfl
  | bone id =>
    refine needed_congr (fun _ => Roster.get?_modify_map (h := ?_) ?_) (fun _ => rfl) node
    all_goals exact fun _ => rfl
  | cube id =>
    refine needed_congr (fun _ => rfl) (fun _ => Roster.get?_modify_map (h := ?_) ?_) node
    · exact fun c => c.id_placeAt _ _
    · intro c
      rw [Cube.placeAt_eq]

lemma needed_after (start : Anchored K) (settled : List Node) (node : Node) :
    needed anchors (start.after anchors settled).bones (start.after anchors settled).cubes node =
      needed anchors start.bones start.cubes node := by
  induction settled with
  | nil => rfl
  | cons other settled ih => exact (needed_settle _ other node).trans ih

end Needed

section Turns

variable {anchors : List (Spec.Anchor K)} {r r' : Resolver K} {node : Node} {l : List Node}
  {fault : Fault K} {entered : Bool}

omit [Scalar K] in
lemma enter_same (h : r.enter ⟨node, entered⟩ = .ok r') : r'.toAnchored = r.toAnchored := by
  unfold Resolver.enter at h
  split_ifs at h
  · cases h
    rfl
  · cases h
    rfl

lemma turn_ok (hnew : r.knows node = false) (hneeded : needed anchors r.bones r.cubes node = .ok l) :
    r.turn anchors ⟨node, entered⟩ = (r.enter ⟨node, entered⟩).map (·.await anchors node l) := by
  rw [Resolver.turn, if_neg (by simp [hnew])]
  cases node with
  | anchor id =>
    obtain ⟨anchor, index, hfind, hpresent, rfl⟩ := needed_anchor.mp hneeded
    simp only [hfind]
    cases henter : r.enter ⟨.anchor id, entered⟩ with
    | error fault => rfl
    | ok r' =>
      -- entering a node leaves the entities as they are
      have hsame := enter_same henter
      cases htarget : anchor.target with
      | bone target =>
        rw [htarget] at hpresent
        have hc : r'.bones.contains target = true := by
          rw [congrArg Anchored.bones hsame]
          exact Roster.contains_iff.mpr hpresent
        simp [bind, Except.bind, Except.map, hc, targetNode]
      | cube target =>
        rw [htarget] at hpresent
        have hc : r'.cubes.contains target = true := by
          rw [congrArg Anchored.cubes hsame]
          exact Roster.contains_iff.mpr hpresent
        simp [bind, Except.bind, Except.map, hc, targetNode]
  | bone id =>
    simp only [needed] at hneeded
    split at hneeded
    · cases hneeded
    · next bone hget =>
      cases hneeded
      simp only [hget]
      cases r.enter ⟨.bone id, entered⟩ <;> rfl
  | cube id =>
    simp only [needed] at hneeded
    split at hneeded
    · cases hneeded
    · next cube hget =>
      cases hneeded
      simp only [hget]
      cases r.enter ⟨.cube id, entered⟩ <;> rfl

lemma turn_error (hnew : r.knows node = false)
    (hneeded : needed anchors r.bones r.cubes node = .error fault)
    (henter : r.enter ⟨node, entered⟩ = .ok r') : r.turn anchors ⟨node, entered⟩ = .error fault := by
  have hbones : r'.bones = r.bones := congrArg Anchored.bones (enter_same henter)
  have hcubes : r'.cubes = r.cubes := congrArg Anchored.cubes (enter_same henter)
  rw [Resolver.turn, if_neg (by simp [hnew])]
  cases node with
  | anchor id =>
    simp only [needed] at hneeded
    split at hneeded
    · next hfind =>
      cases hneeded
      simp [hfind]
    · next anchor index hfind =>
      split at hneeded <;> next target htarget =>
        split_ifs at hneeded with hc
        cases hneeded
        simp [hfind, htarget, henter, bind, Except.bind, hbones, hcubes, hc]
  | bone id =>
    simp only [needed] at hneeded
    split at hneeded
    · next hget =>
      cases hneeded
      simp [hget]
    · cases hneeded
  | cube id =>
    simp only [needed] at hneeded
    split at hneeded
    · next hget =>
      cases hneeded
      simp [hget]
    · cases hneeded

end Turns

end Armature.Model
