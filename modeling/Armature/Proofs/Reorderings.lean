import Armature.Model.Json
import Armature.Proofs.AnchorSolutions
import Armature.Proofs.Merging

/-! The order of declaration makes no difference to a model: each stage that succeeds on a spec does
so on one with its entries in another order, and comes to the same entities. -/

namespace Armature.Json

variable {members members' : List (String × Json)}

/-- Where no two entries have the same key, sorting by keys forgets the order. -/
lemma mergeSort_perm_eq {α β : Type} {key : α → β} {le : α → α → Bool}
    (htrans : ∀ a b c, le a b = true → le b c = true → le a c = true)
    (htotal : ∀ a b, (le a b || le b a) = true)
    (hkey : ∀ a b, le a b = true → le b a = true → key a = key b) {l l' : List α}
    (hkeys : (l.map key).Nodup) (h : l.Perm l') : l.mergeSort le = l'.mergeSort le := by
  have hsorted (l : List α) := List.pairwise_mergeSort htrans htotal l
  have hperm : (l.mergeSort le).Perm (l'.mergeSort le) :=
    ((List.mergeSort_perm l le).trans h).trans (List.mergeSort_perm l' le).symm
  refine List.Perm.eq_of_pairwise (fun a b ha hb hab hba => ?_) (hsorted l) (hsorted l') hperm
  have ha' : a ∈ l := (List.mergeSort_perm l le).mem_iff.mp ha
  have hb' : b ∈ l := h.mem_iff.mpr ((List.mergeSort_perm l' le).mem_iff.mp hb)
  exact List.inj_on_of_nodup_map hkeys ha' hb' (hkey a b hab hba)

lemma sortMembers_perm {l l' : List (String × String)} (hkeys : (l.map Prod.fst).Nodup)
    (h : l.Perm l') : sortMembers l = sortMembers l' := by
  refine mergeSort_perm_eq ?_ ?_ ?_ hkeys h
  · simp only [Bool.not_eq_true', decide_eq_false_iff_not]
    exact fun _ _ _ => String.le_trans
  · simp only [Bool.or_eq_true, Bool.not_eq_true', decide_eq_false_iff_not]
    exact fun a b => String.le_total a.1 b.1
  · simp only [Bool.not_eq_true', decide_eq_false_iff_not]
    exact fun _ _ hab hba => String.le_antisymm hab hba

lemma canonicalMembers_eq_map (members : List (String × Json)) :
    canonicalMembers members = members.map fun (key, value) => (key, value.canonical) := by
  induction members with
  | nil => rfl
  | cons member rest ih => rw [canonicalMembers, ih, List.map_cons]

lemma canonical_object_congr (h : canonicalMembers members = canonicalMembers members') :
    canonical (.object members) = canonical (.object members') := by
  rw [canonical, canonical, h]

lemma canonical_object_perm (hkeys : (members.map Prod.fst).Nodup) (h : members.Perm members') :
    canonical (.object members) = canonical (.object members') := by
  have hsorted : sortMembers (canonicalMembers members) =
      sortMembers (canonicalMembers members') := by
    rw [canonicalMembers_eq_map, canonicalMembers_eq_map]
    refine sortMembers_perm ?_ (h.map _)
    rw [List.map_map]
    exact hkeys
  rw [canonical, canonical, hsorted]

end Armature.Json

namespace Armature.Model

open Relation

variable {K : Type} {limits : Limits}

section Checks

variable {bones bones' : Bones K} {cubes cubes' : Cubes K}

lemma ParentOf.perm (h : bones.toList.Perm bones'.toList) {child parent : String}
    (hp : ParentOf bones child parent) : ParentOf bones' child parent := by
  obtain ⟨b, hb, hid, hparent⟩ := hp
  exact ⟨b, h.mem_iff.mp hb, hid, hparent⟩

lemma SoundBones.perm (h : bones.toList.Perm bones'.toList) (hs : SoundBones limits bones) :
    SoundBones limits bones' where
  count := Roster.size_perm h ▸ hs.count
  names := (h.map _).nodup_iff.mp hs.names
  parents b hb p hp := (Roster.ids_perm h).mem_iff.mp (hs.parents b (h.mem_iff.mpr hb) p hp)
  acyclic id hc := hs.acyclic id (TransGen.mono (fun _ _ => ParentOf.perm h.symm) _ _ hc)

lemma SoundCubes.perm (h : bones.toList.Perm bones'.toList) (h' : cubes.toList.Perm cubes'.toList)
    (hs : SoundCubes limits bones cubes) : SoundCubes limits bones' cubes' where
  count := Roster.size_perm h' ▸ hs.count
  names := (h'.map _).nodup_iff.mp hs.names
  parents c hc := (Roster.ids_perm h).mem_iff.mp (hs.parents c (h'.mem_iff.mpr hc))

end Checks

variable [Scalar K]

lemma addRoot_perm (policy : Spec.Policy K) {bones bones' : Bones K}
    (h : bones.toList.Perm bones'.toList) :
    (addRoot policy bones).toList.Perm (addRoot policy bones').toList := by
  unfold addRoot
  split_ifs
  · exact Roster.insertFirst_perm h
  · exact h

section Copies

variable {cubes cubes' next : Cubes K} {c c' after : Copying K}

omit [Scalar K] in
lemma addCopy_perm {index : ℕ} {cube : Cube K} (h : cubes.toList.Perm cubes'.toList)
    (hadd : addCopy index cubes cube = .ok next) :
    ∃ next', addCopy index cubes' cube = .ok next' ∧ next.toList.Perm next'.toList := by
  unfold addCopy at hadd ⊢
  rw [← Roster.contains_perm h]
  split_ifs at hadd ⊢
  cases hadd
  exact ⟨_, rfl, Roster.insert_perm h⟩

lemma carryOut_perm {maxCubes : ℕ} {directive : Spec.Directive K × ℕ}
    (h : c.cubes.toList.Perm c'.cubes.toList) (hc : c.carryOut maxCubes directive = .ok after) :
    ∃ after', c'.carryOut maxCubes directive = .ok after' ∧
      after.cubes.toList.Perm after'.cubes.toList := by
  simp only [Copying.carryOut] at hc ⊢
  cases hexpansion : expansion? directive.1 with
  | error type =>
    rw [hexpansion] at hc
    cases hc
    exact ⟨_, rfl, h⟩
  | ok expansion =>
    rw [hexpansion] at hc
    dsimp only at hc ⊢
    rw [← Roster.get?_perm h, ← Roster.size_perm h]
    cases hsource : c.cubes.get? expansion.source with
    | none =>
      rw [hsource] at hc
      cases hc
    | some source =>
      rw [hsource] at hc
      dsimp only at hc ⊢
      split_ifs at hc ⊢
      obtain ⟨cubes, hcubes, hc⟩ := Attempts.bind_ok.mp hc
      cases hc
      have hstep : ∀ cube ∈ expansion.copies source, ∀ s s' t : Cubes K, s.toList.Perm s'.toList →
          addCopy directive.2 s cube = .ok t →
          ∃ t', addCopy directive.2 s' cube = .ok t' ∧ t.toList.Perm t'.toList :=
        fun _ _ _ _ _ => addCopy_perm
      obtain ⟨cubes', hcubes', hperm⟩ :=
        Attempts.foldlM_transfers (fun s s' : Cubes K => s.toList.Perm s'.toList) hstep h hcubes
      exact ⟨_, Attempts.bind_ok.mpr ⟨cubes', hcubes', rfl⟩, hperm⟩

lemma expand_perm {maxCubes : ℕ} {directives : List (Spec.Directive K)}
    (h : cubes.toList.Perm cubes'.toList) (hc : expand maxCubes directives cubes = .ok c) :
    ∃ c', expand maxCubes directives cubes' = .ok c' ∧ c.cubes.toList.Perm c'.cubes.toList :=
  Attempts.foldlM_transfers (fun s t : Copying K => s.cubes.toList.Perm t.cubes.toList)
    (fun _ _ _ _ _ h hc => carryOut_perm h hc) h hc

end Copies

/-- The entries of one spec in another order. Instances, which build on each other, keep theirs. -/
structure Reordered (spec spec' : Spec K) : Prop where
  template : spec'.template = spec.template
  policy : spec'.policy = spec.policy
  instances : spec'.instances = spec.instances
  bones : spec.bones.Perm spec'.bones
  cubes : spec.cubes.Perm spec'.cubes
  anchors : spec.anchors.Perm spec'.anchors

namespace Reordered

variable {spec spec' : Spec K}

omit [Scalar K] in
lemma symm (h : Reordered spec spec') : Reordered spec' spec :=
  ⟨h.template.symm, h.policy.symm, h.instances.symm, h.bones.symm, h.cubes.symm, h.anchors.symm⟩

omit [Scalar K] in
lemma referencesAnchors_eq (h : Reordered spec spec') :
    spec'.referencesAnchors = spec.referencesAnchors := by
  rw [Spec.referencesAnchors, Spec.referencesAnchors, h.bones.any_eq, h.cubes.any_eq]

lemma resolveAnchors_ok (h : Reordered spec spec') {bones bones' : Bones K} {cubes cubes' : Cubes K}
    (hbones : bones.toList.Perm bones'.toList) (hcubes : cubes.toList.Perm cubes'.toList)
    {placed : Bones K × Cubes K} (hplaced : resolveAnchors spec bones cubes = .ok placed) :
    ∃ placed', resolveAnchors spec' bones' cubes' = .ok placed' ∧
      placed.1.toList.Perm placed'.1.toList ∧ placed.2.toList.Perm placed'.2.toList := by
  by_cases hnil : spec.anchors = []
  · have hnil' : spec'.anchors = [] := List.nil_perm.mp (hnil ▸ h.anchors)
    rw [resolveAnchors, if_pos (by simp [hnil])] at hplaced
    rw [resolveAnchors, if_pos (by simp [hnil']), h.referencesAnchors_eq]
    split_ifs at hplaced ⊢
    · cases hplaced
    · cases hplaced
      exact ⟨_, rfl, hbones, hcubes⟩
  · obtain ⟨point, hsolution, -⟩ := resolveAnchors_solution hnil hplaced
    refine ⟨_, resolveAnchors_perm hnil h.anchors hbones hcubes hplaced hsolution, ?_⟩
    rw [(solution_iff.mp hsolution).2]
    exact ⟨hbones.map _, hcubes.map _⟩

lemma exists_model (h : Reordered spec spec') {m : Model K} (hm : ofSpec limits spec = .ok m) :
    ∃ m', ofSpec limits spec' = .ok m' ∧
      m.bones.toList.Perm m'.bones.toList ∧ m.cubes.toList.Perm m'.cubes.toList := by
  obtain ⟨s, rfl⟩ := exists_stages hm
  obtain ⟨mergedBones, hmergedBones, hbones⟩ :=
    mergeEntries_perm (fun _ _ => resolveBone_index) h.bones s.bones_merged
  obtain ⟨mergedCubes, hmergedCubes, hcubes⟩ :=
    mergeEntries_perm (fun _ _ => resolveCube_index) h.cubes s.cubes_merged
  have hrooted := addRoot_perm spec.policy hbones
  obtain ⟨⟨bones, cubes⟩, hplaced, hpivots, hboxes⟩ := h.resolveAnchors_ok hrooted hcubes s.anchored
  obtain ⟨copying, hcopying, hcopies⟩ := expand_perm hboxes s.expanded
  let s' : Stages limits spec' := {
    mergedBones, mergedCubes, bones, cubes, copying
    policy_ok := h.policy ▸ s.policy_ok
    bones_merged := by rw [h.policy, h.template]; exact hmergedBones
    cubes_merged := by rw [h.policy, h.template]; exact hmergedCubes
    bones_ok := by
      rw [h.policy]
      exact checkBones_ok.mpr ((checkBones_ok.mp s.bones_ok).perm hrooted)
    cubes_ok := by
      rw [h.policy]
      exact checkCubes_ok.mpr ((checkCubes_ok.mp s.cubes_ok).perm hrooted hcubes)
    anchored := by rw [h.policy]; exact hplaced
    expanded := h.instances ▸ hcopying
    count_ok := checkCubeCount_ok.mpr (Roster.size_perm hcopies ▸ checkCubeCount_ok.mp s.count_ok)
    names_ok := checkCubeNames_ok.mpr
      ⟨(hcopies.map _).nodup_iff.mp (checkCubeNames_ok.mp s.names_ok).1, by simp⟩ }
  refine ⟨s'.model, s'.ofSpec_eq, ?_, ?_⟩
  · change (s.bones.toList.map _).Perm (bones.toList.map _)
    rw [h.policy]
    exact hpivots.map _
  · change (s.copying.cubes.toList.map _).Perm (copying.cubes.toList.map _)
    rw [h.policy]
    exact hcopies.map _

end Reordered

lemma digest_perm {m m' : Model Float} (hbones : m.bones.toList.Perm m'.bones.toList)
    (hcubes : m.cubes.toList.Perm m'.cubes.toList) : m.digest = m'.digest := by
  have hkeys {α : Type} [Identified α] (r : Roster α) (f : α → Json) :
      ((r.toList.map fun a => (Identified.id a, f a)).map Prod.fst).Nodup := by
    rw [List.map_map]
    exact r.nodup
  have hb : Json.canonical (.object (m.bones.toList.map fun b => (b.id, b.toJson))) =
      Json.canonical (.object (m'.bones.toList.map fun b => (b.id, b.toJson))) :=
    Json.canonical_object_perm (hkeys m.bones Bone.toJson) (hbones.map _)
  have hc : Json.canonical (.object (m.cubes.toList.map fun c => (c.id, c.toJson))) =
      Json.canonical (.object (m'.cubes.toList.map fun c => (c.id, c.toJson))) :=
    Json.canonical_object_perm (hkeys m.cubes Cube.toJson) (hcubes.map _)
  refine congrArg Blake3.hexOfText (Json.canonical_object_congr ?_)
  simp only [Json.canonicalMembers, hb, hc]

/-- Whether there is a model, what its entities are and its digest do not depend on the order in
which bones, cubes and anchors are declared. -/
theorem ofSpec_reordered (limits : Limits) {spec spec' : Spec Float} (h : Reordered spec spec') :
    ((∃ m, ofSpec limits spec = .ok m) ↔ ∃ m', ofSpec limits spec' = .ok m') ∧
    ∀ m m', ofSpec limits spec = .ok m → ofSpec limits spec' = .ok m' →
      (∀ id, m.bones.get? id = m'.bones.get? id) ∧ (∀ id, m.cubes.get? id = m'.cubes.get? id) ∧
      m.digest = m'.digest := by
  refine ⟨⟨fun ⟨m, hm⟩ => ?_, fun ⟨m', hm'⟩ => ?_⟩, fun m m' hm hm' => ?_⟩
  · obtain ⟨m', hm', -⟩ := h.exists_model hm
    exact ⟨m', hm'⟩
  · obtain ⟨m, hm, -⟩ := h.symm.exists_model hm'
    exact ⟨m, hm⟩
  · obtain ⟨_, hm'', hbones, hcubes⟩ := h.exists_model hm
    obtain rfl := Except.ok.inj (hm''.symm.trans hm')
    exact ⟨fun _ => Roster.get?_perm hbones, fun _ => Roster.get?_perm hcubes,
      digest_perm hbones hcubes⟩

def handSpec : Spec Float where
  bones := [{ id := some "arm", pivotAnchor := some "at_hand" },
    { id := some "hand", parent := some "arm" }]
  cubes := [{ id := some "palm", parent := some "hand", center := some .zero, size := some .one },
    { id := some "thumb", parent := some "hand", size := some .one, centerAnchor := some "at_palm" }]
  anchors := [{ id := "at_hand", target := .bone "hand", offset := some ⟨0, 1, 0⟩ },
    { id := "at_palm", target := .cube "palm" }]

def handSpecBackwards : Spec Float :=
  { handSpec with
    bones := handSpec.bones.reverse
    cubes := handSpec.cubes.reverse
    anchors := handSpec.anchors.reverse }

theorem ofSpec_reordered_hand : Reordered handSpec handSpecBackwards ∧
    ∃ m m', ofSpec .standard handSpec = .ok m ∧ ofSpec .standard handSpecBackwards = .ok m' ∧
      (∀ id, m.bones.get? id = m'.bones.get? id) ∧ (∀ id, m.cubes.get? id = m'.cubes.get? id) ∧
      m.digest = m'.digest := by
  have h : Reordered handSpec handSpecBackwards :=
    ⟨rfl, rfl, rfl, (List.reverse_perm _).symm, (List.reverse_perm _).symm,
      (List.reverse_perm _).symm⟩
  obtain ⟨m, hm⟩ : ∃ m, ofSpec .standard handSpec = .ok m := Attempts.exists_ok (by decide +kernel)
  obtain ⟨hok, hsame⟩ := ofSpec_reordered .standard h
  obtain ⟨m', hm'⟩ := hok.mp ⟨m, hm⟩
  exact ⟨h, m, m', hm, hm', hsame m m' hm hm'⟩

end Armature.Model
