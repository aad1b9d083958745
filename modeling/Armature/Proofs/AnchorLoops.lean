import Armature.Proofs.WorkLists

/-! The loop over a list of work ends as the depth-first order does, fault or not, and so it comes to
the one solution of the equations that the anchors state. -/

namespace Armature.Model

variable {K : Type} [Scalar K]

section Simulation

variable {anchors : List (Spec.Anchor K)} {bones : Bones K} {cubes : Cubes K}
  {settled underWay l : List Node} {node : Node} {frames : List Frame}
  {out : Except (Fault K) (Resolver K)}

def boneId? : Node → Option String
  | .bone id => some id
  | _ => none

def cubeId? : Node → Option String
  | .cube id => some id
  | _ => none

/-- The loop where a depth-first walk stands. -/
def Resolver.standing (anchors : List (Spec.Anchor K)) (bones : Bones K) (cubes : Cubes K)
    (settled underWay : List Node) : Resolver K :=
  { Anchored.after anchors { bones, cubes } settled with
    settledBones := settled.filterMap boneId?
    settledCubes := settled.filterMap cubeId?
    underWay }

lemma mem_filterMap_iff {f : Node → Option String} {id : String}
    (hf : ∀ other, f other = some id ↔ other = node) :
    id ∈ settled.filterMap f ↔ node ∈ settled := by
  simp [List.mem_filterMap, hf]

lemma knows_standing (hordered : (positions anchors bones cubes).Postordered settled)
    (hnodup : settled.Nodup) :
    (Resolver.standing anchors bones cubes settled underWay).knows node = true ↔ node ∈ settled := by
  cases node with
  | anchor id =>
    constructor
    · intro h
      by_contra hnew
      have hstart : (Anchored.after anchors { bones, cubes } settled).point? id = none :=
        Anchored.after_sameAt_start hnew
      exact Option.isSome_iff_ne_none.mp h hstart
    · intro h
      obtain ⟨anchor, index, -, -, hpoint⟩ :=
        Anchored.point?_after { bones, cubes } hordered hnodup h
      exact Option.isSome_iff_exists.mpr ⟨_, hpoint⟩
  | bone id =>
    have hm : id ∈ settled.filterMap boneId? ↔ .bone id ∈ settled :=
      mem_filterMap_iff fun other => by cases other <;> simp [boneId?]
    rw [← hm]
    exact List.contains_iff_mem
  | cube id =>
    have hm : id ∈ settled.filterMap cubeId? ↔ .cube id ∈ settled :=
      mem_filterMap_iff fun other => by cases other <;> simp [cubeId?]
    rw [← hm]
    exact List.contains_iff_mem

lemma not_knows_standing (hordered : (positions anchors bones cubes).Postordered settled)
    (hnodup : settled.Nodup) (hnew : node ∉ settled) :
    (Resolver.standing anchors bones cubes settled underWay).knows node = false := by
  simpa using (knows_standing hordered hnodup).not.mpr hnew

lemma needed_standing (node : Node) :
    needed anchors (Resolver.standing anchors bones cubes settled underWay).bones
      (Resolver.standing anchors bones cubes settled underWay).cubes node =
        needed anchors bones cubes node :=
  needed_after { bones, cubes } settled node

lemma finish_standing :
    (Resolver.standing anchors bones cubes settled (node :: underWay)).finish anchors node =
      Resolver.standing anchors bones cubes (node :: settled) underWay := by
  cases node <;> rfl

lemma enter_standing : (Resolver.standing anchors bones cubes settled underWay).enter ⟨node, false⟩ =
    if node ∈ underWay then .error (.anchorCycle underWay.reverse node)
    else .ok (Resolver.standing anchors bones cubes settled (node :: underWay)) := rfl

/-- From where a walk has come to, or failed, the loop comes to an end. -/
def Leads (anchors : List (Spec.Anchor K)) (bones : Bones K) (cubes : Cubes K)
    (walk : Except (Fault K) (List Node)) (underWay : List Node) (frames : List Frame)
    (out : Except (Fault K) (Resolver K)) : Prop :=
  match walk with
  | .ok settled => Runs anchors frames (.standing anchors bones cubes settled underWay) out
  | .error fault => out = .error fault

lemma turn_standing (hordered : (positions anchors bones cubes).Postordered settled)
    (hnodup : settled.Nodup) (hnew : node ∉ settled)
    (hneeded : needed anchors bones cubes node = .ok l) :
    (Resolver.standing anchors bones cubes settled (node :: underWay)).turn anchors ⟨node, true⟩ =
      .ok ((Resolver.standing anchors bones cubes settled (node :: underWay)).await
        anchors node l) :=
  turn_ok (not_knows_standing hordered hnodup hnew) ((needed_standing node).trans hneeded)

lemma turn_settles (hordered : (positions anchors bones cubes).Postordered settled)
    (hnodup : settled.Nodup) (hnew : node ∉ settled)
    (hneeded : needed anchors bones cubes node = .ok l) (hl : l ⊆ settled) :
    (Resolver.standing anchors bones cubes settled (node :: underWay)).turn anchors ⟨node, true⟩ =
      .ok (.settled (.standing anchors bones cubes (node :: settled) underWay)) := by
  have hnone : l.find? (fun other =>
      !(Resolver.standing anchors bones cubes settled (node :: underWay)).knows other) = none := by
    refine List.find?_eq_none.mpr fun other hother => ?_
    simpa using (knows_standing hordered hnodup).mpr (hl hother)
  rw [turn_standing hordered hnodup hnew hneeded, Resolver.await, hnone, finish_standing]

lemma turn_waits {before after : List Node} {other : Node}
    (hordered : (positions anchors bones cubes).Postordered settled)
    (hnodup : settled.Nodup) (hnew : node ∉ settled)
    (hneeded : needed anchors bones cubes node = .ok (before ++ other :: after))
    (hbefore : before ⊆ settled) (hother : other ∉ settled) :
    (Resolver.standing anchors bones cubes settled (node :: underWay)).turn anchors ⟨node, true⟩ =
      .ok (.waits (.standing anchors bones cubes settled (node :: underWay)) other) := by
  have hfirst : (before ++ other :: after).find? (fun other =>
      !(Resolver.standing anchors bones cubes settled (node :: underWay)).knows other) =
        some other := by
    rw [List.find?_append, List.find?_eq_none.mpr, Option.none_or, List.find?_cons_of_pos]
    · rw [not_knows_standing hordered hnodup hother]
      rfl
    · intro known hm
      simpa using (knows_standing hordered hnodup).mpr (hbefore hm)
  rw [turn_standing hordered hnodup hnew hneeded, Resolver.await, hfirst]

lemma turn_missing {fault : Fault K} (hordered : (positions anchors bones cubes).Postordered settled)
    (hnodup : settled.Nodup) (hnew : node ∉ settled) (hunder : node ∉ underWay)
    (hneeded : needed anchors bones cubes node = .error fault) :
    (Resolver.standing anchors bones cubes settled underWay).turn anchors ⟨node, false⟩ =
      .error fault := by
  have henter : (Resolver.standing anchors bones cubes settled underWay).enter ⟨node, false⟩ =
      .ok (.standing anchors bones cubes settled (node :: underWay)) := by
    rw [enter_standing, if_neg hunder]
  exact turn_error (not_knows_standing hordered hnodup hnew) ((needed_standing node).trans hneeded)
    henter

lemma turn_cycle (hordered : (positions anchors bones cubes).Postordered settled)
    (hnodup : settled.Nodup) (hnew : node ∉ settled) (hunder : node ∈ underWay)
    (hneeded : needed anchors bones cubes node = .ok l) :
    (Resolver.standing anchors bones cubes settled underWay).turn anchors ⟨node, false⟩ =
      .error (.anchorCycle underWay.reverse node) := by
  rw [turn_ok (not_knows_standing hordered hnodup hnew) ((needed_standing node).trans hneeded),
    enter_standing, if_pos hunder]
  rfl

lemma turn_enters (hordered : (positions anchors bones cubes).Postordered settled)
    (hnodup : settled.Nodup) (hnew : node ∉ settled) (hunder : node ∉ underWay)
    (hneeded : needed anchors bones cubes node = .ok l) :
    (Resolver.standing anchors bones cubes settled underWay).turn anchors ⟨node, false⟩ =
      (Resolver.standing anchors bones cubes settled (node :: underWay)).turn anchors ⟨node, true⟩ := by
  rw [turn_standing hordered hnodup hnew hneeded,
    turn_ok (not_knows_standing hordered hnodup hnew) ((needed_standing node).trans hneeded),
    enter_standing, if_neg hunder]
  rfl

lemma Runs.of_turn_eq {r r' : Resolver K} (h : Runs anchors (⟨node, true⟩ :: frames) r out)
    (hturn : r'.turn anchors ⟨node, false⟩ = r.turn anchors ⟨node, true⟩) :
    Runs anchors (⟨node, false⟩ :: frames) r' out := by
  cases h with
  | settled h hrest => exact .settled (hturn.trans h) hrest
  | waits h hrest => exact .waits (hturn.trans h) hrest
  | fails h => exact .fails (hturn.trans h)

section Needed

variable {before after : List Node}
  (hvisit : ∀ settled other frames out, (positions anchors bones cubes).Postordered settled →
    settled.Nodup →
    Leads anchors bones cubes
      ((positions anchors bones cubes).visit .anchorCycle (node :: underWay) settled other)
      (node :: underWay) frames out →
    Runs anchors (⟨other, false⟩ :: frames)
      (.standing anchors bones cubes settled (node :: underWay)) out)

include hvisit

lemma runs_of_needed (hordered : (positions anchors bones cubes).Postordered settled)
    (hnodup : settled.Nodup) (hnew : node ∉ settled)
    (hneeded : needed anchors bones cubes node = .ok (before ++ after)) (hbefore : before ⊆ settled)
    (h : Leads anchors bones cubes ((after.foldlM (fun settled other =>
      (positions anchors bones cubes).visit .anchorCycle (node :: underWay) settled other)
        settled).map (node :: ·)) underWay frames out) :
    Runs anchors (⟨node, true⟩ :: frames)
      (.standing anchors bones cubes settled (node :: underWay)) out := by
  -- the frame waits for one needed node after another; those before are settled, it is not
  induction after generalizing before settled with
  | nil =>
    rw [List.append_nil] at hneeded
    exact .settled (turn_settles hordered hnodup hnew hneeded hbefore) h
  | cons other after ih =>
    rw [List.foldlM_cons] at h
    have hneeded' : needed anchors bones cubes node = .ok ((before ++ [other]) ++ after) := by
      simpa using hneeded
    by_cases hother : other ∈ settled
    · rw [Needs.visit, if_pos hother] at h
      have hbefore' : before ++ [other] ⊆ settled :=
        List.append_subset.mpr ⟨hbefore, by simpa using hother⟩
      exact ih hordered hnodup hnew hneeded' hbefore' h
    · refine .waits (turn_waits hordered hnodup hnew hneeded hbefore hother)
        (hvisit settled other _ out hordered hnodup ?_)
      cases hwalk : (positions anchors bones cubes).visit .anchorCycle (node :: underWay) settled
          other with
      | error fault =>
        rw [hwalk] at h
        exact h
      | ok settled' =>
        rw [hwalk] at h
        obtain ⟨hordered', hm, hsub⟩ := Needs.visit_settles hordered hwalk
        obtain ⟨hnodup', hfresh⟩ := Needs.visit_nodup hnodup hwalk
        have hnew' : node ∉ settled' := fun hn =>
          (hfresh node hn).elim hnew fun hne => hne List.mem_cons_self
        have hbefore' : before ++ [other] ⊆ settled' :=
          List.append_subset.mpr ⟨fun x hx => hsub (hbefore hx), by simpa using hm⟩
        exact ih hordered' hnodup' hnew' hneeded' hbefore' h

end Needed

lemma runs_of_visit (hordered : (positions anchors bones cubes).Postordered settled)
    (hnodup : settled.Nodup)
    (hunder : ∀ other ∈ underWay, ∃ l, needed anchors bones cubes other = .ok l)
    (h : Leads anchors bones cubes
      ((positions anchors bones cubes).visit .anchorCycle underWay settled node) underWay frames
        out) :
    Runs anchors (⟨node, false⟩ :: frames) (.standing anchors bones cubes settled underWay) out := by
  -- the walk and the loop meet a node in four ways: settled, missing, on a cycle, or new
  fun_induction Needs.visit (positions anchors bones cubes) .anchorCycle underWay settled node
    generalizing frames out with
  | case1 underWay settled node hm =>
    have hknown : (Resolver.standing anchors bones cubes settled underWay).knows node = true :=
      (knows_standing hordered hnodup).mpr hm
    exact .settled (by rw [Resolver.turn, if_pos hknown]) h
  | case2 underWay settled node hm fault hof =>
    have hu : node ∉ underWay := by
      intro hu
      obtain ⟨l, hl⟩ := hunder node hu
      cases hl.symm.trans hof
    obtain rfl := h
    exact .fails (turn_missing hordered hnodup hm hu hof)
  | case3 underWay settled node hm l hof hu =>
    obtain rfl := h
    exact .fails (turn_cycle hordered hnodup hm hu hof)
  | case4 underWay settled node hm l hof hu _ ih =>
    have hunder' : ∀ other ∈ node :: underWay, ∃ l, needed anchors bones cubes other = .ok l :=
      List.forall_mem_cons.mpr ⟨⟨l, hof⟩, hunder⟩
    have hneeded : needed anchors bones cubes node = .ok ([] ++ l) := hof
    have hrun := runs_of_needed (fun settled other frames out hordered hnodup h =>
      ih settled other hordered hnodup hunder' h) hordered hnodup hm hneeded
        (List.nil_subset settled) h
    exact hrun.of_turn_eq (turn_enters hordered hnodup hm hu hof)

lemma runsAll_of_walk {nodes : List Node}
    (hordered : (positions anchors bones cubes).Postordered settled) (hnodup : settled.Nodup)
    (h : Leads anchors bones cubes
      (nodes.foldlM (fun settled node =>
        (positions anchors bones cubes).visit .anchorCycle [] settled node) settled) [] [] out) :
    RunsAll anchors nodes (.standing anchors bones cubes settled []) out := by
  induction nodes generalizing settled with
  | nil =>
    obtain rfl := Runs.done.unique h
    exact .done
  | cons node nodes ih =>
    rw [List.foldlM_cons] at h
    cases hwalk : (positions anchors bones cubes).visit .anchorCycle [] settled node with
    | error fault =>
      rw [hwalk] at h
      obtain rfl := h
      refine .fails (runs_of_visit hordered hnodup (by simp) ?_)
      rw [hwalk]
      rfl
    | ok settled' =>
      rw [hwalk] at h
      refine .next (runs_of_visit hordered hnodup (by simp) ?_)
        (ih (Needs.visit_settles hordered hwalk).1 (Needs.visit_nodup hnodup hwalk).1 h)
      rw [hwalk]
      exact Runs.done

end Simulation

section Ends

variable {spec : Spec K} {bones : Bones K} {cubes : Cubes K}

lemma loopEnds_resolveAnchors (h : spec.anchors ≠ []) :
    LoopEnds spec bones cubes (resolveAnchors spec bones cubes) := by
  rw [resolveAnchors, if_neg (by simpa using h), LoopEnds]
  cases checkAnchors [] spec.anchors.zipIdx with
  | error fault => rfl
  | ok =>
    have hnil : (positions spec.anchors bones cubes).Postordered [] := trivial
    simp only [bind, Except.bind, Needs.order]
    cases hwalk : (positions spec.anchors bones cubes).nodes.foldlM (fun settled node =>
        (positions spec.anchors bones cubes).visit .anchorCycle [] settled node) [] with
    | error fault =>
      refine ⟨.error fault, runsAll_of_walk hnil List.nodup_nil ?_, rfl⟩
      rw [hwalk]
      rfl
    | ok settled =>
      refine ⟨.ok (.standing spec.anchors bones cubes settled []),
        runsAll_of_walk hnil List.nodup_nil ?_, ?_⟩
      · rw [hwalk]
        exact Runs.done
      · simp only [Except.map, List.foldl_reverse]
        rfl

/-- With anchors, the loop ends as the recursion does that it replaces; what it comes to is the only
solution of the equations between anchors and entities, and the same one in any other order. -/
theorem resolveAnchors_solves (h : spec.anchors ≠ []) (bones : Bones K) (cubes : Cubes K) :
    (∀ out, LoopEnds spec bones cubes out ↔ resolveAnchors spec bones cubes = out) ∧
    ∀ placed, resolveAnchors spec bones cubes = .ok placed →
      ∃ point, Solution spec.anchors bones cubes point placed ∧
        (∀ point' placed', Solution spec.anchors bones cubes point' placed' →
          placed' = placed ∧ ∀ anchor ∈ spec.anchors, point' anchor.id = point anchor.id) ∧
        ∀ (spec' : Spec K) (bones' : Bones K) (cubes' : Cubes K),
          spec.anchors.Perm spec'.anchors → bones.toList.Perm bones'.toList →
          cubes.toList.Perm cubes'.toList →
          ∃ placed', resolveAnchors spec' bones' cubes' = .ok placed' ∧
            LoopEnds spec' bones' cubes' (.ok placed') ∧
            Solution spec'.anchors bones' cubes' point placed' := by
  refine ⟨fun out => ⟨fun hout => (loopEnds_resolveAnchors h).unique hout, ?_⟩,
    fun placed hplaced => ?_⟩
  · rintro rfl
    exact loopEnds_resolveAnchors h
  · obtain ⟨point, hsolution, hunique⟩ := resolveAnchors_solution h hplaced
    refine ⟨point, hsolution, hunique, fun spec' bones' cubes' hanchors hbones hcubes => ?_⟩
    have h' : spec'.anchors ≠ [] := fun hnil => h (List.perm_nil.mp (hnil ▸ hanchors))
    have hplaced' := resolveAnchors_perm h hanchors hbones hcubes hplaced hsolution
    exact ⟨_, hplaced', hplaced' ▸ loopEnds_resolveAnchors h',
      hsolution.perm hanchors hbones hcubes⟩

end Ends

/-- An anchor above the hip, with the knee at it, and one above the knee. -/
def chainSpec : Spec Float where
  anchors := [{ id := "at_knee", target := .bone "knee", offset := some ⟨0, 2, 0⟩ },
    { id := "at_hip", target := .bone "hip", offset := some ⟨0, 1, 0⟩ }]

def chainBones : Bones Float where
  toList := [pinnedBone "knee" "at_hip", Bone.ofId "hip" none]
  nodup := by decide

def chainCubes : Cubes Float where
  toList := [{ Cube.ofBox "shin" "knee" .zero .one with centerAnchor := some "at_knee" }]
  nodup := by decide

theorem resolveAnchors_solves_chain : chainSpec.anchors ≠ [] ∧
    ∃ placed, resolveAnchors chainSpec chainBones chainCubes = .ok placed ∧
      LoopEnds chainSpec chainBones chainCubes (.ok placed) ∧
      ∃ point, Solution chainSpec.anchors chainBones chainCubes point placed := by
  have hsome : chainSpec.anchors ≠ [] := by simp [chainSpec]
  obtain ⟨hloop, hsolution⟩ := resolveAnchors_solves hsome chainBones chainCubes
  obtain ⟨placed, hplaced⟩ :
      ∃ placed, resolveAnchors chainSpec chainBones chainCubes = .ok placed :=
    Attempts.exists_ok (by decide +kernel)
  obtain ⟨point, hpoint, -⟩ := hsolution placed hplaced
  exact ⟨hsome, placed, hplaced, (hloop _).mpr hplaced, point, hpoint⟩

end Armature.Model
