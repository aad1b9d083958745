import Armature.Proofs.DerivedIds
import Armature.Proofs.Provenance

/-! The caller's entries over a starter rig: each one is carried by an entity of the model, in the
place of the one of the rig with its id or behind the rig, and the rest of the rig stays. -/

namespace Armature

variable {K : Type}

section Carriers

namespace Spec

/-- The flags say of each field whether the entry gives it. A pivot may be given by its anchor. -/
structure Bone.FlaggedBy (entry : Bone K) (flags : Model.BoneFlags) : Prop where
  id : flags.id ↔ entry.id.isSome
  name : flags.name ↔ entry.name.isSome
  parent : flags.parent ↔ entry.parent.isSome
  pivot : flags.pivot ↔ entry.pivot.isSome ∨ entry.pivotAnchor.isSome
  rotation : flags.rotation ↔ entry.rotation.isSome
  scale : flags.scale ↔ entry.scale.isSome
  visibility : flags.visibility ↔ entry.visibility.isSome

/-- A box counts as given with a lower corner, a center, a size or an anchor for the center; an upper
corner alone does not make one. -/
structure Cube.FlaggedBy (entry : Cube K) (flags : Model.CubeFlags) : Prop where
  id : flags.id ↔ entry.id.isSome
  name : flags.name ↔ entry.name.isSome
  parent : flags.parent ↔ entry.parent.isSome
  bounds : flags.bounds ↔ entry.lower.isSome ∨ entry.center.isSome ∨ entry.size.isSome ∨
    entry.centerAnchor.isSome
  origin : flags.origin ↔ entry.origin.isSome ∨ entry.originAnchor.isSome
  rotation : flags.rotation ↔ entry.rotation.isSome
  inflate : flags.inflate ↔ entry.inflate.isSome
  mirror : flags.mirror ↔ entry.mirror.isSome
  visibility : flags.visibility ↔ entry.visibility.isSome
  boxUv : flags.boxUv ↔ entry.boxUv.isSome
  uvOffset : flags.uvOffset ↔ entry.uvOffset.isSome

lemma Bone.flaggedBy_flags (entry : Bone K) : entry.FlaggedBy entry.flags := by
  constructor <;> simp [Bone.flags]

lemma Cube.flaggedBy_flags (entry : Cube K) : entry.FlaggedBy entry.flags := by
  constructor <;> simp [Cube.flags, or_assoc]

variable [Scalar K]

/-- What a bone of the model has from the entry that describes it. -/
structure Bone.CarriedBy (policy : Policy K) (entry : Bone K) (b : Model.Bone K) : Prop where
  identity : identify (K := K) policy.idPolicy .bone 0 entry.id entry.name
    (entry.parent <|> policy.parent?) = .ok (b.id, b.name)
  id : ∀ id ∈ entry.id, Text.isBlank id = false → b.id = Text.trim id
  name : b.name = (entry.name.filter fun name => !Text.isBlank name).getD b.id
  parent : b.parent = (entry.parent <|>
    (policy.defaultParent <|> if policy.enforceRoot then some rootId else none).filter (· ≠ b.id))
  pivotAnchor : b.pivotAnchor = entry.pivotAnchor
  rotation : b.rotation = entry.rotation.getD .zero
  scale : b.scale = entry.scale.getD .one
  visibility : b.visibility = entry.visibility
  explicit : entry.FlaggedBy b.explicit

structure Cube.CarriedBy (policy : Policy K) (entry : Cube K) (c : Model.Cube K) : Prop where
  identity : identify (K := K) policy.idPolicy .cube 0 entry.id entry.name
    (entry.parent <|> policy.parent?) = .ok (c.id, c.name)
  id : ∀ id ∈ entry.id, Text.isBlank id = false → c.id = Text.trim id
  name : c.name = (entry.name.filter fun name => !Text.isBlank name).getD c.id
  parent : some c.parent = (entry.parent <|> policy.defaultParent <|>
    if policy.enforceRoot then some rootId else none)
  originAnchor : c.originAnchor = entry.originAnchor
  centerAnchor : c.centerAnchor = entry.centerAnchor
  rotation : c.rotation = entry.rotation.getD .zero
  inflate : c.inflate = entry.inflate
  mirror : c.mirror = entry.mirror
  visibility : c.visibility = entry.visibility
  boxUv : c.boxUv = entry.boxUv
  uvOffset : c.uvOffset = entry.uvOffset
  explicit : entry.FlaggedBy c.explicit

lemma Bone.CarriedBy.parent_eq {policy : Policy K} {entry : Bone K} {b : Model.Bone K}
    (h : entry.CarriedBy policy b) :
    b.parent = (entry.parent <|> policy.parent?.filter (· ≠ b.id)) := h.parent

def rigBones (spec : Spec K) : List String := (spec.template.bones (K := K)).map Template.Bone.id

def rigCubes (spec : Spec K) : List String := (spec.template.cubes (K := K)).map Template.Cube.id

end Spec

namespace Template

structure Bone.KeptAs (bone : Bone K) (b : Model.Bone K) : Prop where
  id : b.id = bone.id
  name : b.name = bone.id
  parent : b.parent = bone.parent
  explicit : b.explicit = ⟨false, false, false, false, false, false, false⟩

structure Cube.KeptAs (cube : Cube K) (c : Model.Cube K) : Prop where
  id : c.id = cube.id
  name : c.name = cube.id
  parent : c.parent = cube.parent
  explicit : c.explicit =
    ⟨false, false, false, false, false, false, false, false, false, false, false⟩

end Template

end Carriers

namespace Model

lemma exists_forall₂ {α β ε : Type} {R : ε → α → Prop} {S : α → β → Prop} {T : ε → β → Prop}
    {l : List ε} {as : List α} (h : List.Forall₂ R l as) (hS : ∀ a ∈ as, ∃ b, S a b)
    (hT : ∀ e a b, R e a → S a b → T e b) :
    ∃ bs, List.Forall₂ T l bs ∧ List.Forall₂ S as bs := by
  induction h with
  | nil => exact ⟨[], .nil, .nil⟩
  | cons hR _ ih =>
    obtain ⟨⟨b, hb⟩, hS⟩ := List.forall_mem_cons.mp hS
    obtain ⟨bs, hl, has⟩ := ih hS
    exact ⟨b :: bs, .cons (hT _ _ _ hR hb) hl, .cons hb has⟩

/-- The ids of a rig with entries over it: those that the rig has not come behind it. -/
def overlay (rig entered : List String) : List String := rig ++ entered.filter (· ∉ rig)

def rootAhead (policy : Spec.Policy K) (ids : List String) : List String :=
  if policy.enforceRoot = true ∧ rootId ∉ ids then rootId :: ids else ids

/-- The warnings about entries that take the place of those of the rig. -/
def overridden (kind : Kind) (rig entered : List String) (start : ℕ) : List Warning :=
  (entered.zipIdx start).filterMap fun entry =>
    if entry.1 ∈ rig then some (.templateOverridden kind entry.2 entry.1) else none

lemma overridden_cons {kind : Kind} {rig entered : List String} {start : ℕ} {id : String} :
    overridden kind rig (id :: entered) start =
      (if id ∈ rig then [.templateOverridden kind start id] else []) ++
        overridden kind rig entered (start + 1) := by
  rw [overridden, List.zipIdx_cons, List.filterMap_cons]
  split_ifs <;> rfl

/-- Entries over a rig: each entry has a carrier of its own among all entities, and what the rig has
under other ids is kept. -/
structure Overlaid {ρ ε α : Type} [Identified α] (key : ρ → String) (Kept : ρ → α → Prop)
    (Carried : ε → α → Prop) (rig : List ρ) (entries : List ε) (all carriers : List α) : Prop where
  carried : List.Forall₂ Carried entries carriers
  present : ∀ a ∈ carriers, a ∈ all
  distinct : (carriers.map Identified.id).Nodup
  kept : ∀ r ∈ rig, key r ∉ carriers.map Identified.id → ∃ a ∈ all, Kept r a

section Entries

variable {α ε : Type} [Identified α] {kind : Kind} {resolve : ℕ → ε → Except (Fault K) α}
  {entries : List ε} {as all : List α} {m m' : Merge α} {a : α} {index start : ℕ}
  {rig : List String}

lemma warnings_add (h : m.add (K := K) kind index a = .ok m') :
    m'.warnings = m.warnings ++ if Identified.id a ∈ m.roster.ids then
      [.templateOverridden kind index (Identified.id a)] else [] := by
  simp only [Merge.add, Roster.contains_iff] at h
  split_ifs at h <;> cases h <;> simp [*]

variable (hindex : ∀ entry a, StandsFor resolve entry a → ∀ index, resolve index entry = .ok a)

include hindex

/-- What the roster has beyond the rig has been entered, and is not met again. -/
lemma foldlM_add_warnings (hstands : List.Forall₂ (StandsFor resolve) entries as)
    (hids : ∀ id ∉ m.entered, id ∈ m.roster.ids ↔ id ∈ rig)
    (h : (entries.zipIdx start).foldlM (fun m (entry, index) => do
      let a ← resolve index entry
      m.add kind index a) m = .ok m') :
    m'.warnings = m.warnings ++ overridden kind rig (as.map Identified.id) start := by
  induction hstands generalizing m start with
  | nil =>
    cases h
    exact (List.append_nil _).symm
  | @cons entry a entries as hentry _ ih =>
    rw [List.zipIdx_cons, List.foldlM_cons] at h
    obtain ⟨next, hnext, h⟩ := Attempts.bind_ok.mp h
    obtain ⟨b, hb, hnext⟩ := Attempts.bind_ok.mp hnext
    obtain rfl : a = b := Except.ok.inj ((hindex entry a hentry start).symm.trans hb)
    obtain ⟨hnew, hroster, hentered⟩ := add_ok hnext
    have hids' : ∀ id ∉ next.entered, id ∈ next.roster.ids ↔ id ∈ rig := by
      intro id hid
      rw [hentered, List.mem_cons, not_or] at hid
      rw [← hids id hid.2, hroster, Roster.mem_ids_insert, or_iff_right hid.1]
    rw [ih hids' h, warnings_add hnext, List.map_cons, overridden_cons, List.append_assoc]
    simp only [hids _ hnew]

variable {ρ : Type} {rigged : Roster α} {l : List ρ} {make : ρ → α} {key : ρ → String}
  {Moved : α → α → Prop} {Kept : ρ → α → Prop} {Carried : ε → α → Prop}

/-- Merged entities that are moved carry their entries as they did before. -/
lemma overlaid_of_mergeEntries (h : mergeEntries kind resolve rigged entries = .ok m)
    (hrigged : rigged.toList = l.map make) (hkey : ∀ r, Identified.id (make r) = key r)
    (hall : ∀ a ∈ m.roster.toList, ∃ b, b ∈ all ∧ Moved a b)
    (hid : ∀ a b, Moved a b → Identified.id b = Identified.id a)
    (hkept : ∀ r a, Moved (make r) a → Kept r a)
    (hcarried : ∀ entry a b, StandsFor resolve entry a → Moved a b → Carried entry b) :
    ∃ carriers, Overlaid key Kept Carried l entries all carriers ∧
      m.roster.ids = overlay (l.map key) (carriers.map Identified.id) ∧
      m.warnings = overridden kind (l.map key) (carriers.map Identified.id) 0 := by
  obtain ⟨as, hstands, hnodup, hroster⟩ := (mergeEntries_ok hindex).mp ⟨m, h, rfl⟩
  have hmem {a : α} := Roster.mem_foldl_insert (b := a) (r := rigged) hnodup
  rw [hroster] at hmem
  -- an entry is carried by what its merged entity was moved to
  obtain ⟨carriers, hcarriers, hmoved⟩ :=
    exists_forall₂ hstands (fun a ha => hall a (hmem.mpr (.inl ha)))
      fun entry a b hentry hb => hcarried entry a b hentry hb.2
  have hids : carriers.map Identified.id = as.map Identified.id := by
    rw [← List.forall₂_eq_eq_eq, List.forall₂_map_left_iff, List.forall₂_map_right_iff]
    exact hmoved.flip.imp fun b a hb => hid a b hb.2
  have hrig : rigged.ids = l.map key := by
    rw [Roster.ids, hrigged, List.map_map]
    exact List.map_congr_left fun r _ => hkey r
  refine ⟨carriers, ⟨hcarriers, ?_, ?_, ?_⟩, ?_, ?_⟩
  · intro b hb
    obtain ⟨a, -, hb, -⟩ := exists_of_mem_left hmoved.flip hb
    exact hb
  · rw [hids]
    exact hnodup
  · intro r hr hfree
    have hmade : make r ∈ m.roster.toList := by
      rw [hmem, hrigged, hkey, ← hids]
      exact .inr ⟨List.mem_map_of_mem hr, hfree⟩
    obtain ⟨b, hb, hmoved⟩ := hall _ hmade
    exact ⟨b, hb, hkept r b hmoved⟩
  · rw [hids, ← hroster, Roster.ids_foldl_insert hnodup, hrig]
    rfl
  · rw [hids, ← hrig]
    exact foldlM_add_warnings hindex hstands (fun _ _ => Iff.rfl) h

end Entries

lemma Overlaid.carried_or_kept {ρ ε α : Type} [Identified α] {key : ρ → String}
    {Kept : ρ → α → Prop} {Carried : ε → α → Prop} {rig : List ρ} {entries : List ε}
    {roster : Roster α} {carriers : List α} {a : α}
    (h : Overlaid key Kept Carried rig entries roster.toList carriers)
    (hkept : ∀ r a, Kept r a → Identified.id a = key r) (ha : a ∈ roster.toList)
    (hid : Identified.id a ∈ overlay (rig.map key) (carriers.map Identified.id)) :
    (∃ entry ∈ entries, Carried entry a) ∨ ∃ r ∈ rig, Kept r a := by
  by_cases hentered : Identified.id a ∈ carriers.map Identified.id
  · obtain ⟨carrier, hcarrier, hsame⟩ := List.mem_map.mp hentered
    obtain rfl : carrier = a := Roster.eq_of_id_eq (h.present carrier hcarrier) ha hsame
    exact .inl (exists_of_mem_left h.carried.flip hcarrier)
  · rcases List.mem_append.mp hid with hrig | hnew
    · obtain ⟨r, hr, hkey⟩ := List.mem_map.mp hrig
      obtain ⟨kept, hmem, hkeeps⟩ := h.kept r hr (hkey ▸ hentered)
      obtain rfl : kept = a := Roster.eq_of_id_eq hmem ha ((hkept r kept hkeeps).trans hkey)
      exact .inr ⟨r, hr, hkeeps⟩
    · exact (hentered (List.mem_of_mem_filter hnew)).elim

variable [Scalar K] {limits : Limits} {spec : Spec K}

lemma parent_or_default (parent default? : Option String) (id : String) :
    (if parent.isNone && (parent <|> default?) == some id then none else parent <|> default?) =
      (parent <|> default?.filter (· ≠ id)) := by
  cases parent with
  | some parent => simp
  | none =>
    cases default? with
    | none => rfl
    | some parent => by_cases hid : parent = id <;> simp [Option.filter, hid]

lemma bone_carried {entry : Spec.Bone K} {a b : Bone K}
    (h : StandsFor (Spec.Bone.resolve spec.policy) entry a) (hmoved : a.Moved b) :
    entry.CarriedBy spec.policy b := by
  obtain ⟨⟨id, name⟩, hidentity, ha⟩ := Attempts.bind_ok.mp (resolveBone_index h 0)
  cases ha
  rw [hmoved]
  obtain ⟨_, -, hresolved, hname⟩ := identify_ok hidentity
  exact ⟨hidentity, fun _ => Identity.eq_trim_of_resolve? hresolved, hname,
    parent_or_default entry.parent spec.policy.parent? id, rfl, rfl, rfl, rfl, entry.flaggedBy_flags⟩

lemma cube_carried {entry : Spec.Cube K} {a c : Cube K}
    (h : StandsFor (Spec.Cube.resolve spec.policy) entry a) (hmoved : a.Moved c) :
    entry.CarriedBy spec.policy c := by
  obtain ⟨⟨id, name⟩, hidentity, ha⟩ := Attempts.bind_ok.mp (resolveCube_index h 0)
  dsimp only at ha
  split at ha
  next parent hparent =>
    split at ha
    next lower upper hbox =>
      cases ha
      rw [hmoved]
      obtain ⟨_, -, hresolved, hname⟩ := identify_ok hidentity
      exact ⟨hidentity, fun _ => Identity.eq_trim_of_resolve? hresolved, hname, hparent.symm, rfl,
        rfl, rfl, rfl, rfl, rfl, rfl, rfl, entry.flaggedBy_flags⟩
    · cases ha
  · cases ha

lemma ids_addRoot {policy : Spec.Policy K} {bones : Bones K} :
    (addRoot policy bones).ids = rootAhead policy bones.ids := by
  unfold addRoot rootAhead
  by_cases henforce : policy.enforceRoot = true
  · have hroot : Identified.id (Bone.ofId rootId none : Bone K) = rootId := rfl
    rw [if_pos henforce, Roster.ids_insertFirst, hroot]
    simp [henforce]
  · rw [if_neg henforce, if_neg fun h => henforce h.1]

omit [Scalar K] in
lemma mem_of_mem_rootAhead {policy : Spec.Policy K} {ids : List String} {id : String}
    (h : id ∈ rootAhead policy ids) (hne : id ≠ rootId) : id ∈ ids := by
  unfold rootAhead at h
  split_ifs at h
  · exact (List.mem_cons.mp h).resolve_left hne
  · exact h

namespace Stages

variable (s : Stages limits spec)

lemma ids_bones : s.model.bones.ids = (addRoot spec.policy s.mergedBones.roster).ids := by
  rw [bones_ids_eq, s.bone_frames, ← bones_ids_eq]

lemma exists_bone {a : Bone K} (h : a ∈ s.mergedBones.roster.toList) :
    ∃ b, b ∈ s.model.bones.toList ∧ a.Moved b := by
  have hadded : a ∈ (addRoot spec.policy s.mergedBones.roster).toList := mem_addRoot.mpr (.inl h)
  obtain ⟨b, hb, hid⟩ := Roster.mem_ids.mp (s.ids_bones ▸ Roster.mem_ids_of_mem hadded)
  obtain ⟨b', hb', hmoved⟩ := s.bone_merged hb
  have hid' : b'.id = b.id := by rw [hmoved]
  obtain rfl : b' = a := Roster.eq_of_id_eq hb' hadded (hid'.trans hid)
  exact ⟨b, hb, hmoved⟩

lemma exists_cube {a : Cube K} (h : a ∈ s.mergedCubes.roster.toList) :
    ∃ c, c ∈ s.model.cubes.toList ∧ a.Moved c := by
  obtain ⟨c, hc, hid⟩ := Roster.mem_ids.mp (s.ids_anchored ▸ Roster.mem_ids_of_mem h)
  have hmem : c.place spec.policy ∈ s.model.cubes.toList :=
    List.mem_map_of_mem ((prefix_of_expand s.expanded).subset hc)
  exact ⟨_, hmem, s.cube_merged hmem h hid.symm⟩

lemma bones_overlaid : ∃ bones,
    Overlaid Template.Bone.id Template.Bone.KeptAs (Spec.Bone.CarriedBy spec.policy)
      spec.template.bones spec.bones s.model.bones.toList bones ∧
    s.mergedBones.roster.ids = overlay spec.rigBones (bones.map Bone.id) ∧
    s.mergedBones.warnings = overridden .bone spec.rigBones (bones.map Bone.id) 0 := by
  apply overlaid_of_mergeEntries (fun _ _ => resolveBone_index) s.bones_merged
    spec.template.toList_modelBones (fun _ => rfl) (fun _ => s.exists_bone)
  · rintro a b hmoved
    rw [hmoved]
    rfl
  · rintro r b hmoved
    rw [hmoved]
    exact ⟨rfl, rfl, rfl, rfl⟩
  · exact fun _ _ _ => bone_carried

lemma cubes_overlaid : ∃ cubes,
    Overlaid Template.Cube.id Template.Cube.KeptAs (Spec.Cube.CarriedBy spec.policy)
      spec.template.cubes spec.cubes s.model.cubes.toList cubes ∧
    s.mergedCubes.roster.ids = overlay spec.rigCubes (cubes.map Cube.id) ∧
    s.mergedCubes.warnings = overridden .cube spec.rigCubes (cubes.map Cube.id) 0 := by
  apply overlaid_of_mergeEntries (fun _ _ => resolveCube_index) s.cubes_merged
    spec.template.toList_modelCubes (fun _ => rfl) (fun _ => s.exists_cube)
  · rintro a c hmoved
    rw [hmoved]
    rfl
  · rintro r c hmoved
    rw [hmoved]
    exact ⟨rfl, rfl, rfl, rfl⟩
  · exact fun _ _ _ => cube_carried

end Stages

/-- The model of a spec, told by the carriers of its entries and the copies of its directives. -/
structure Merged (limits : Limits) (spec : Spec K) (m : Model K) (bones : List (Bone K))
    (cubes : List (Cube K)) (copies : List (List (Cube K))) : Prop where
  bones_overlaid :
    Overlaid Template.Bone.id Template.Bone.KeptAs (Spec.Bone.CarriedBy spec.policy)
      spec.template.bones spec.bones m.bones.toList bones
  cubes_overlaid :
    Overlaid Template.Cube.id Template.Cube.KeptAs (Spec.Cube.CarriedBy spec.policy)
      spec.template.cubes spec.cubes m.cubes.toList cubes
  bone_ids : m.bones.ids = rootAhead spec.policy (overlay spec.rigBones (bones.map Bone.id))
  cube_ids : m.cubes.ids =
    overlay spec.rigCubes (cubes.map Cube.id) ++ copies.flatten.map Cube.id
  copied : ∃ sources, m.cubes.toList = (sources ++ copies.flatten).map (Cube.place spec.policy) ∧
    Turns limits.maxCubes sources spec.instances copies
  warnings : m.warnings = overridden .bone spec.rigBones (bones.map Bone.id) 0 ++
    overridden .cube spec.rigCubes (cubes.map Cube.id) 0 ++ passedOver spec.instances 0

/-- Merging loses no entry, keeps the rest of the rig and adds nothing but the root bone and the
copies. -/
theorem ofSpec_merged {m : Model K} (h : ofSpec limits spec = .ok m) :
    ∃ bones cubes copies, Merged limits spec m bones cubes copies := by
  obtain ⟨s, rfl⟩ := exists_stages h
  obtain ⟨bones, hbones, hboneIds, hboneWarnings⟩ := s.bones_overlaid
  obtain ⟨cubes, hcubes, hcubeIds, hcubeWarnings⟩ := s.cubes_overlaid
  obtain ⟨copies, hturns, hcopied, hpassed⟩ := expand_ok.mp s.expanded
  have hplaced : s.model.cubes.toList =
      (s.cubes.toList ++ copies.flatten).map (Cube.place spec.policy) := by
    rw [← hcopied]
    rfl
  refine ⟨bones, cubes, copies, hbones, hcubes, ?_, ?_, ⟨_, hplaced, hturns⟩, ?_⟩
  · rw [s.ids_bones, ids_addRoot, hboneIds]
  · rw [Roster.ids, hplaced, List.map_map, List.map_append, ← hcubeIds, ← s.ids_anchored]
    rfl
  · rw [Stages.model, hboneWarnings, hcubeWarnings, hpassed]

def chestSpec : Spec Float where
  template := .blockEntity
  bones := [{ id := some "lid", visibility := some false }]
  cubes := [{ id := some "knob", parent := some "lid", center := some .zero, size := some .one },
    { id := some "block", name := some "Chest", lower := some .zero, upper := some .one }]
  instances := [.unknown "spiral" .null,
    .repetition { source := "knob", count := 1, delta := .one }]

theorem ofSpec_merged_chest : ∃ m bones cubes copies, ofSpec .standard chestSpec = .ok m ∧
    (m.bones.ids = ["root", "lid"] ∧ m.cubes.ids = ["block", "knob", "knob_repeat_1"] ∧
      m.warnings = [.templateOverridden .cube 1 "block", .unknownDirective 0 "spiral"]) ∧
    Merged .standard chestSpec m bones cubes copies := by
  obtain ⟨m, hm⟩ : ∃ m, ofSpec .standard chestSpec = .ok m :=
    Attempts.exists_ok (by decide +kernel)
  have htold : m.bones.ids = ["root", "lid"] ∧ m.cubes.ids = ["block", "knob", "knob_repeat_1"] ∧
      m.warnings = [.templateOverridden .cube 1 "block", .unknownDirective 0 "spiral"] := by
    apply Attempts.holds_of_all (p := fun m : Model Float =>
      m.bones.ids = ["root", "lid"] ∧ m.cubes.ids = ["block", "knob", "knob_repeat_1"] ∧
        m.warnings = [.templateOverridden .cube 1 "block", .unknownDirective 0 "spiral"]) hm
    decide +kernel
  obtain ⟨bones, cubes, copies, hmerged⟩ := ofSpec_merged hm
  exact ⟨m, bones, cubes, copies, hm, htold, hmerged⟩

end Model

end Armature
