import Armature.Model.OfSpec
import Armature.Proofs.Postorders
import Armature.Proofs.Rosters

/-! Which anchors can be resolved: those with ids of their own, on entities that are there, among
which all referenced ones are, if no position is taken from itself. -/

namespace Armature.Model

open Relation

variable {K : Type}

def Present (bones : Bones K) (cubes : Cubes K) : Spec.Target → Prop
  | .bone id => id ∈ bones.ids
  | .cube id => id ∈ cubes.ids

structure Anchorable (anchors : List (Spec.Anchor K)) (bones : Bones K) (cubes : Cubes K) :
    Prop where
  distinct : (anchors.map Spec.Anchor.id).Nodup
  pivots : ∀ bone ∈ bones.toList, ∀ id ∈ bone.pivotAnchor, id ∈ anchors.map Spec.Anchor.id
  centers : ∀ cube ∈ cubes.toList, ∀ id ∈ cube.centerAnchor, id ∈ anchors.map Spec.Anchor.id
  origins : ∀ cube ∈ cubes.toList, ∀ id ∈ cube.originAnchor, id ∈ anchors.map Spec.Anchor.id
  /-- Whether or not the anchor is referenced. -/
  targets : ∀ anchor ∈ anchors, Present bones cubes anchor.target

/-- A position is taken from another one. -/
inductive PlacedBy (anchors : List (Spec.Anchor K)) (bones : Bones K) (cubes : Cubes K) :
    Node → Node → Prop
  | pivot {bone : Bone K} {id : String} (hbone : bone ∈ bones.toList)
      (hanchor : bone.pivotAnchor = some id) :
      PlacedBy anchors bones cubes (.bone bone.id) (.anchor id)
  | center {cube : Cube K} {id : String} (hcube : cube ∈ cubes.toList)
      (hanchor : cube.centerAnchor = some id) :
      PlacedBy anchors bones cubes (.cube cube.id) (.anchor id)
  | origin {cube : Cube K} {id : String} (hcube : cube ∈ cubes.toList)
      (hanchor : cube.originAnchor = some id) :
      PlacedBy anchors bones cubes (.cube cube.id) (.anchor id)
  | target {anchor : Spec.Anchor K} (hanchor : anchor ∈ anchors) :
      PlacedBy anchors bones cubes (.anchor anchor.id) (targetNode anchor.target)

section Lookup

variable {anchors : List (Spec.Anchor K)} {anchor : Spec.Anchor K} {id : String} {index : ℕ}

lemma anchor?_spec (h : anchor? anchors id = some (anchor, index)) :
    anchor ∈ anchors ∧ anchor.id = id :=
  ⟨List.fst_mem_of_mem_zipIdx (List.mem_of_find?_eq_some h), by simpa using List.find?_some h⟩

lemma exists_anchor? (h : id ∈ anchors.map Spec.Anchor.id) :
    ∃ anchor index, anchor? anchors id = some (anchor, index) := by
  obtain ⟨anchor, hm, rfl⟩ := List.mem_map.mp h
  obtain ⟨index, hi⟩ := List.mem_iff_getElem?.mp hm
  cases hfind : anchor? anchors anchor.id with
  | some found => exact ⟨found.1, found.2, rfl⟩
  | none =>
    have hne := List.find?_eq_none.mp hfind (anchor, index) (List.mk_mem_zipIdx_iff_getElem?.mpr hi)
    exact (hne (beq_self_eq_true anchor.id)).elim

lemma anchor?_of_mem (hdistinct : (anchors.map Spec.Anchor.id).Nodup) (h : anchor ∈ anchors) :
    ∃ index, anchor? anchors anchor.id = some (anchor, index) := by
  obtain ⟨found, index, hfound⟩ := exists_anchor? (List.mem_map_of_mem (f := Spec.Anchor.id) h)
  obtain ⟨hm, hid⟩ := anchor?_spec hfound
  obtain rfl := List.inj_on_of_nodup_map hdistinct hm h hid
  exact ⟨index, hfound⟩

lemma checkAnchors_ok {earlier : List String} {rest : List (Spec.Anchor K × ℕ)} :
    checkAnchors earlier rest = .ok () ↔
      (rest.map (·.1.id)).Nodup ∧ ∀ anchor ∈ rest, anchor.1.id ∉ earlier := by
  induction rest generalizing earlier with
  | nil => simp [checkAnchors]
  | cons anchor rest ih =>
    rw [checkAnchors]
    split_ifs with h
    · simp_all
    · simp only [List.contains_iff_mem] at h
      rw [ih, List.map_cons, List.nodup_cons, List.forall_mem_cons]
      simp only [List.mem_cons, not_or, forall_and, List.mem_map, not_exists, not_and]
      tauto

lemma checkAnchors_error {earlier : List String} {rest : List (Spec.Anchor K × ℕ)} {fault : Fault K}
    (h : checkAnchors earlier rest = .error fault) :
    ∃ index id, fault = .duplicateAnchor index id := by
  induction rest generalizing earlier with
  | nil => cases h
  | cons anchor rest ih =>
    rw [checkAnchors] at h
    split_ifs at h
    · exact ⟨_, _, (Except.error.inj h).symm⟩
    · exact ih h

lemma checkAnchors_zipIdx :
    checkAnchors [] anchors.zipIdx = .ok () ↔ (anchors.map Spec.Anchor.id).Nodup := by
  have hids : anchors.zipIdx.map (·.1.id) = anchors.map Spec.Anchor.id := by
    rw [← List.zipIdx_map_fst 0 anchors, List.map_map, List.zipIdx_map_fst]
    rfl
  rw [checkAnchors_ok, hids]
  simp

end Lookup

section Graph

variable {anchors : List (Spec.Anchor K)} {bones : Bones K} {cubes : Cubes K} {a b : Node}

lemma mem_nodes_anchor {anchor : Spec.Anchor K} (h : anchor ∈ anchors) :
    .anchor anchor.id ∈ (positions anchors bones cubes).nodes :=
  List.mem_append_right _ (List.mem_map_of_mem h)

lemma mem_nodes_bone {bone : Bone K} (h : bone ∈ bones.toList) :
    .bone bone.id ∈ (positions anchors bones cubes).nodes := by
  have hid : bone.id ∈ bones.ids := Roster.mem_ids_of_mem h
  simp [positions, hid]

lemma mem_nodes_cube {cube : Cube K} (h : cube ∈ cubes.toList) :
    .cube cube.id ∈ (positions anchors bones cubes).nodes := by
  have hid : cube.id ∈ cubes.ids := Roster.mem_ids_of_mem h
  simp [positions, hid]

lemma needed_bone {bone : Bone K} (h : bone ∈ bones.toList) :
    needed anchors bones cubes (.bone bone.id) = .ok (bone.pivotAnchor.toList.map .anchor) := by
  have hget : bones.get? bone.id = some bone := Roster.get?_eq_some.mpr ⟨h, rfl⟩
  simp only [needed, hget]

lemma needed_cube {cube : Cube K} (h : cube ∈ cubes.toList) :
    needed anchors bones cubes (.cube cube.id) =
      .ok ((cube.centerAnchor.toList ++ cube.originAnchor.toList).map .anchor) := by
  have hget : cubes.get? cube.id = some cube := Roster.get?_eq_some.mpr ⟨h, rfl⟩
  simp only [needed, hget]

lemma needed_anchor {id : String} {l : List Node} :
    needed anchors bones cubes (.anchor id) = .ok l ↔ ∃ anchor index,
      anchor? anchors id = some (anchor, index) ∧ Present bones cubes anchor.target ∧
        l = [targetNode anchor.target] := by
  rw [needed]
  cases hfind : anchor? anchors id with
  | none => simp
  | some found =>
    obtain ⟨anchor, index⟩ := found
    cases htarget : anchor.target with
    | bone target =>
      by_cases hc : target ∈ bones.ids <;>
        simp [hc, htarget, Present, targetNode, Roster.contains_iff, eq_comm (b := l)]
    | cube target =>
      by_cases hc : target ∈ cubes.ids <;>
        simp [hc, htarget, Present, targetNode, Roster.contains_iff, eq_comm (b := l)]

lemma needed_error {fault : Fault K} (h : needed anchors bones cubes a = .error fault) :
    ∀ underWay node, fault ≠ .anchorCycle underWay node := by
  rintro underWay node rfl
  cases a with
  | anchor id =>
    simp only [needed] at h
    split at h
    · cases h
    · split at h <;> split_ifs at h <;> cases h
  | bone id =>
    simp only [needed] at h
    split at h <;> cases h
  | cube id =>
    simp only [needed] at h
    split at h <;> cases h

lemma exists_of_needed_bone {id : String} {l : List Node}
    (h : needed anchors bones cubes (.bone id) = .ok l) : ∃ bone ∈ bones.toList, bone.id = id := by
  simp only [needed] at h
  split at h
  · cases h
  · next bone hbone => exact ⟨bone, Roster.get?_eq_some.mp hbone⟩

lemma exists_of_needed_cube {id : String} {l : List Node}
    (h : needed anchors bones cubes (.cube id) = .ok l) : ∃ cube ∈ cubes.toList, cube.id = id := by
  simp only [needed] at h
  split at h
  · cases h
  · next cube hcube => exact ⟨cube, Roster.get?_eq_some.mp hcube⟩

lemma placedBy_of_edge (h : (positions anchors bones cubes).Edge a b) :
    PlacedBy anchors bones cubes a b := by
  obtain ⟨l, hl, hb⟩ := h
  change needed anchors bones cubes a = .ok l at hl
  cases a with
  | anchor id =>
    obtain ⟨anchor, index, hfind, -, rfl⟩ := needed_anchor.mp hl
    obtain ⟨hanchor, rfl⟩ := anchor?_spec hfind
    obtain rfl := List.mem_singleton.mp hb
    exact .target hanchor
  | bone id =>
    obtain ⟨bone, hbone, rfl⟩ := exists_of_needed_bone hl
    obtain rfl := Except.ok.inj ((needed_bone hbone).symm.trans hl)
    obtain ⟨id, hid, rfl⟩ := List.mem_map.mp hb
    exact .pivot hbone (Option.mem_toList.mp hid)
  | cube id =>
    obtain ⟨cube, hcube, rfl⟩ := exists_of_needed_cube hl
    obtain rfl := Except.ok.inj ((needed_cube hcube).symm.trans hl)
    obtain ⟨id, hid, rfl⟩ := List.mem_map.mp hb
    rcases List.mem_append.mp hid with hid | hid
    · exact .center hcube (Option.mem_toList.mp hid)
    · exact .origin hcube (Option.mem_toList.mp hid)

lemma edge_pivot {bone : Bone K} {id : String} (h : bone ∈ bones.toList)
    (hid : bone.pivotAnchor = some id) :
    (positions anchors bones cubes).Edge (.bone bone.id) (.anchor id) := by
  have hneeded : needed anchors bones cubes (.bone bone.id) = _ := needed_bone h
  exact ⟨_, hneeded, by simp [hid]⟩

lemma edge_cube {cube : Cube K} {id : String} (h : cube ∈ cubes.toList)
    (hid : cube.centerAnchor = some id ∨ cube.originAnchor = some id) :
    (positions anchors bones cubes).Edge (.cube cube.id) (.anchor id) := by
  have hneeded : needed anchors bones cubes (.cube cube.id) = _ := needed_cube h
  exact ⟨_, hneeded, by simpa using hid⟩

namespace Anchorable

lemma edge_of_placedBy (hw : Anchorable anchors bones cubes) (h : PlacedBy anchors bones cubes a b) :
    (positions anchors bones cubes).Edge a b := by
  cases h with
  | pivot hbone hanchor => exact edge_pivot hbone hanchor
  | center hcube hanchor => exact edge_cube hcube (.inl hanchor)
  | origin hcube hanchor => exact edge_cube hcube (.inr hanchor)
  | target hanchor =>
    obtain ⟨index, hfind⟩ := anchor?_of_mem hw.distinct hanchor
    have hneeded := needed_anchor.mpr ⟨_, index, hfind, hw.targets _ hanchor, rfl⟩
    exact ⟨_, hneeded, List.mem_singleton_self _⟩

/-- The positions of a well-formed graph are those of its entities and anchors. -/
lemma needed_ok (hw : Anchorable anchors bones cubes) (h : (positions anchors bones cubes).Met a) :
    ∃ l, needed anchors bones cubes a = .ok l := by
  have hanchor {id : String} (hid : id ∈ anchors.map Spec.Anchor.id) :
      ∃ l, needed anchors bones cubes (.anchor id) = .ok l := by
    obtain ⟨anchor, index, hfind⟩ := exists_anchor? hid
    have hpresent := hw.targets anchor (anchor?_spec hfind).1
    exact ⟨_, needed_anchor.mpr ⟨anchor, index, hfind, hpresent, rfl⟩⟩
  have hentity (target : Spec.Target) (hp : Present bones cubes target) :
      ∃ l, needed anchors bones cubes (targetNode target) = .ok l := by
    cases target with
    | bone id =>
      obtain ⟨bone, hbone, rfl⟩ := Roster.mem_ids.mp hp
      exact ⟨_, needed_bone hbone⟩
    | cube id =>
      obtain ⟨cube, hcube, rfl⟩ := Roster.mem_ids.mp hp
      exact ⟨_, needed_cube hcube⟩
  rcases h with h | ⟨b, h⟩
  · change a ∈ _ ++ _ ++ _ at h
    simp only [List.mem_append, List.mem_map] at h
    obtain (⟨id, hid, rfl⟩ | ⟨id, hid, rfl⟩) | ⟨anchor, hm, rfl⟩ := h
    · exact hentity (.bone id) hid
    · exact hentity (.cube id) hid
    · exact hanchor (List.mem_map_of_mem hm)
  · cases placedBy_of_edge h with
    | pivot hbone hid => exact hanchor (hw.pivots _ hbone _ hid)
    | center hcube hid => exact hanchor (hw.centers _ hcube _ hid)
    | origin hcube hid => exact hanchor (hw.origins _ hcube _ hid)
    | target hm => exact hentity _ (hw.targets _ hm)

end Anchorable

lemma anchorable_of_needed (hdistinct : (anchors.map Spec.Anchor.id).Nodup)
    (h : ∀ a, (positions anchors bones cubes).Met a → ∃ l, needed anchors bones cubes a = .ok l) :
    Anchorable anchors bones cubes := by
  have hanchor {a : Node} {id : String}
      (hedge : (positions anchors bones cubes).Edge a (.anchor id)) :
      id ∈ anchors.map Spec.Anchor.id := by
    obtain ⟨l, hl⟩ := h (.anchor id) (.inr ⟨a, hedge⟩)
    obtain ⟨anchor, index, hfind, -⟩ := needed_anchor.mp hl
    obtain ⟨hm, rfl⟩ := anchor?_spec hfind
    exact List.mem_map_of_mem hm
  exact {
    distinct := hdistinct
    pivots bone hbone id hid := hanchor (edge_pivot hbone hid)
    centers cube hcube id hid := hanchor (edge_cube hcube (.inl hid))
    origins cube hcube id hid := hanchor (edge_cube hcube (.inr hid))
    targets anchor hm := by
      obtain ⟨index, hfind⟩ := anchor?_of_mem hdistinct hm
      obtain ⟨l, hl⟩ := h _ (.inl (mem_nodes_anchor hm))
      obtain ⟨anchor', index', hfind', hp, -⟩ := needed_anchor.mp hl
      obtain ⟨rfl, -⟩ : anchor = anchor' ∧ index = index' := by simpa using hfind.symm.trans hfind'
      exact hp }

lemma transGen_placedBy (h : TransGen (positions anchors bones cubes).Edge a b) :
    TransGen (PlacedBy anchors bones cubes) a b :=
  TransGen.mono (fun _ _ => placedBy_of_edge) _ _ h

end Graph

section Resolution

variable [Scalar K] {spec : Spec K} {bones : Bones K} {cubes : Cubes K}

lemma resolveAnchors_ok (h : spec.anchors ≠ []) {placed : Bones K × Cubes K}
    (hplaced : resolveAnchors spec bones cubes = .ok placed) :
    Anchorable spec.anchors bones cubes ∧ NoCycle (PlacedBy spec.anchors bones cubes) := by
  rw [resolveAnchors, if_neg (by simpa using h)] at hplaced
  obtain ⟨hdistinct, hplaced⟩ := Attempts.then_ok.mp hplaced
  obtain ⟨order, horder, -⟩ := Attempts.bind_ok.mp hplaced
  obtain ⟨hneeded, hcycle⟩ := Needs.order_ok horder
  have hw := anchorable_of_needed (checkAnchors_zipIdx.mp hdistinct) hneeded
  refine ⟨hw, fun a ha => hcycle a (TransGen.mono (fun _ _ => hw.edge_of_placedBy) _ _ ha)⟩

lemma resolveAnchors_error (h : spec.anchors ≠ []) {fault : Fault K}
    (hfault : resolveAnchors spec bones cubes = .error fault) :
    (¬ Anchorable spec.anchors bones cubes ∧ ∀ underWay node, fault ≠ .anchorCycle underWay node) ∨
      ∃ underWay node, fault = .anchorCycle underWay node ∧ node ∈ underWay ∧
        TransGen (PlacedBy spec.anchors bones cubes) node node := by
  rw [resolveAnchors, if_neg (by simpa using h)] at hfault
  rcases Attempts.then_error.mp hfault with hfault | ⟨-, hfault⟩
  · refine .inl ⟨fun hw => ?_, ?_⟩
    · cases hfault.symm.trans (checkAnchors_zipIdx.mpr hw.distinct)
    · obtain ⟨index, id, rfl⟩ := checkAnchors_error hfault
      simp
  · rcases Attempts.bind_error.mp hfault with hfault | ⟨order, -, hfault⟩
    · rcases Needs.order_error hfault with ⟨a, ha, hneeded⟩ | ⟨underWay, a, rfl, hm, hcycle⟩
      · refine .inl ⟨fun hw => ?_, needed_error hneeded⟩
        obtain ⟨l, hl⟩ := hw.needed_ok ha
        cases hl.symm.trans hneeded
      · exact .inr ⟨underWay, a, rfl, hm, transGen_placedBy hcycle⟩
    · cases hfault

/-- With anchors, positions are settled exactly if the anchors are well-formed and no position is
taken from itself; the fault that reports a cycle names a position on one, and it is the fault if
there is nothing else to report. -/
theorem resolveAnchors_exact (h : spec.anchors ≠ []) (bones : Bones K) (cubes : Cubes K) :
    ((∃ placed, resolveAnchors spec bones cubes = .ok placed) ↔
      Anchorable spec.anchors bones cubes ∧ NoCycle (PlacedBy spec.anchors bones cubes)) ∧
    (∀ underWay node, resolveAnchors spec bones cubes = .error (.anchorCycle underWay node) →
      node ∈ underWay ∧ TransGen (PlacedBy spec.anchors bones cubes) node node) ∧
    (Anchorable spec.anchors bones cubes → ¬ NoCycle (PlacedBy spec.anchors bones cubes) →
      ∃ underWay node, resolveAnchors spec bones cubes = .error (.anchorCycle underWay node)) := by
  have hcycle {underWay : List Node} {node : Node}
      (hfault : resolveAnchors spec bones cubes = .error (.anchorCycle underWay node)) :
      node ∈ underWay ∧ TransGen (PlacedBy spec.anchors bones cubes) node node := by
    rcases resolveAnchors_error h hfault with ⟨-, hne⟩ | ⟨_, _, heq, hm, hcycle⟩
    · exact (hne _ _ rfl).elim
    · cases heq
      exact ⟨hm, hcycle⟩
  have hreports (hw : Anchorable spec.anchors bones cubes) {fault : Fault K}
      (hfault : resolveAnchors spec bones cubes = .error fault) :
      ∃ underWay node, fault = .anchorCycle underWay node := by
    rcases resolveAnchors_error h hfault with ⟨hnot, -⟩ | ⟨underWay, node, heq, -⟩
    · exact (hnot hw).elim
    · exact ⟨underWay, node, heq⟩
  refine ⟨⟨fun ⟨_, hplaced⟩ => resolveAnchors_ok h hplaced, fun ⟨hw, hnone⟩ => ?_⟩,
    fun _ _ => hcycle, fun hw hsome => ?_⟩
  · cases hplaced : resolveAnchors spec bones cubes with
    | ok placed => exact ⟨placed, rfl⟩
    | error fault =>
      obtain ⟨underWay, node, rfl⟩ := hreports hw hplaced
      exact (hnone node (hcycle hplaced).2).elim
  · cases hplaced : resolveAnchors spec bones cubes with
    | ok placed => exact (hsome (resolveAnchors_ok h hplaced).2).elim
    | error fault =>
      obtain ⟨underWay, node, rfl⟩ := hreports hw hplaced
      exact ⟨underWay, node, rfl⟩

end Resolution

def ringSpec : Spec Float where
  anchors := [{ id := "at_left", target := .bone "left" },
    { id := "at_right", target := .bone "right" }]

def pinnedBone (id anchor : String) : Bone Float :=
  { Bone.ofId id none with pivotAnchor := some anchor }

def ringBones : Bones Float where
  toList := [pinnedBone "left" "at_right", pinnedBone "right" "at_left"]
  nodup := by decide

lemma ring_anchorable : Anchorable ringSpec.anchors ringBones .empty where
  distinct := by decide
  pivots := by decide
  centers := by decide
  origins := by decide
  targets := by simp [ringSpec, Present, ringBones, pinnedBone, Roster.ids, Bone.ofId, Identified.id]

lemma ring_cycle :
    TransGen (PlacedBy ringSpec.anchors ringBones .empty) (.bone "left") (.bone "left") := by
  have hleft : pinnedBone "left" "at_right" ∈ ringBones.toList := by simp [ringBones]
  have hright : pinnedBone "right" "at_left" ∈ ringBones.toList := by simp [ringBones]
  have hat_left : { id := "at_left", target := .bone "left" } ∈ ringSpec.anchors := by
    simp [ringSpec]
  have hat_right : { id := "at_right", target := .bone "right" } ∈ ringSpec.anchors := by
    simp [ringSpec]
  exact ((TransGen.single (.pivot hleft rfl)).tail (.target hat_right)).tail (.pivot hright rfl)
    |>.tail (.target hat_left)

theorem resolveAnchors_exact_ring : ringSpec.anchors ≠ [] ∧
    ∃ underWay node, resolveAnchors ringSpec ringBones .empty = .error (.anchorCycle underWay node) ∧
      node ∈ underWay ∧ TransGen (PlacedBy ringSpec.anchors ringBones .empty) node node := by
  have hsome : ringSpec.anchors ≠ [] := by simp [ringSpec]
  obtain ⟨-, hfault, hcycle⟩ := resolveAnchors_exact hsome ringBones .empty
  obtain ⟨underWay, node, h⟩ := hcycle ring_anchorable fun hnone => hnone _ ring_cycle
  exact ⟨hsome, underWay, node, h, hfault underWay node h⟩

end Armature.Model
