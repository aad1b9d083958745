import Armature.Proofs.SoundModels

/-! What directives come to: each one at its turn adds the copies of a cube that is there, at the
end of the cubes, or ends everything with a fault. -/

namespace Armature

namespace Spec.Directive

variable {K : Type}

def source? : Directive K → Option String
  | mirror m => some m.source
  | repetition r => some r.source
  | radial r => some r.source
  | unknown .. => none

def count : Directive K → ℕ
  | mirror _ => 1
  | repetition r => r.count
  | radial r => r.count
  | unknown .. => 0

def warning? (index : ℕ) : Directive K → Option Warning
  | unknown type _ => some (.unknownDirective index type)
  | _ => none

lemma named_or_unknown (directive : Directive K) :
    (∃ id, directive.source? = some id) ∨ ∃ type value, directive = unknown type value := by
  cases directive with
  | mirror m => exact .inl ⟨m.source, rfl⟩
  | repetition r => exact .inl ⟨r.source, rfl⟩
  | radial r => exact .inl ⟨r.source, rfl⟩
  | unknown type value => exact .inr ⟨type, value, rfl⟩

lemma warning?_of_named {directive : Directive K} {id : String} (index : ℕ)
    (h : directive.source? = some id) : directive.warning? index = none := by
  cases directive with
  | unknown type value => cases h
  | _ => rfl

end Spec.Directive

namespace Model

variable {K : Type}

def numbered (stem : String) (count : ℕ) : List String :=
  (List.range count).map fun position => stem ++ "_" ++ toString (position + 1)

lemma numbered_nodup (stem : String) (count : ℕ) : (numbered stem count).Nodup := by
  apply List.nodup_range.map
  intro a b h
  have hdigits : Nat.toDigits 10 (a + 1) = Nat.toDigits 10 (b + 1) := by
    have htext := congrArg String.toList h
    simp only [String.toList_append, List.append_cancel_left_eq,
      Nat.toString_eq_ofList_toDigits, String.toList_ofList] at htext
    exact htext
  have hnumber := congrArg (Nat.ofDigitChars 10 · 0) hdigits
  simp only [Nat.ofDigitChars_ten_toDigits] at hnumber
  exact Nat.succ.inj hnumber

namespace Cube

/-- The ids of the copies that a directive makes of a cube. -/
def copyIds (source : Cube K) : Spec.Directive K → List String
  | .mirror m => [m.newId.getD (source.id ++ "_mirror")]
  | .repetition r => numbered (r.idStem.getD (source.id ++ "_repeat")) r.count
  | .radial r => numbered (r.idStem.getD (source.id ++ "_radial")) r.count
  | .unknown .. => []

def copies [Scalar K] (source : Cube K) : Spec.Directive K → List (Cube K)
  | .mirror m => [source.mirrored m]
  | .repetition r => (List.range r.count).map fun position => source.shifted r (position + 1)
  | .radial r =>
    (List.range r.count).map fun position =>
      source.turned r (copyId (r.idStem.getD (source.id ++ "_radial")) (position + 1))
        (radialAngle r position)
  | .unknown .. => []

structure CopyOf (source copy : Cube K) : Prop where
  parent : copy.parent = source.parent
  inflate : copy.inflate = source.inflate
  mirror : copy.mirror = source.mirror
  visibility : copy.visibility = source.visibility
  boxUv : copy.boxUv = source.boxUv
  uvOffset : copy.uvOffset = source.uvOffset
  originAnchor : copy.originAnchor = none
  centerAnchor : copy.centerAnchor = none
  /-- What a copy has of its own counts as set by the caller. -/
  explicit : copy.explicit = { source.explicit with
    id := true, name := true, bounds := true, origin := true, rotation := true }

lemma copyOf_copy (source : Cube K) (id name : String) (lower upper origin rotation : Vec3 K) :
    source.CopyOf (source.copy id name lower upper origin rotation) :=
  ⟨rfl, rfl, rfl, rfl, rfl, rfl, rfl, rfl, rfl⟩

lemma CopyOf.trans {source copy again : Cube K} (h : source.CopyOf copy) (h' : copy.CopyOf again) :
    source.CopyOf again where
  parent := h'.parent.trans h.parent
  inflate := h'.inflate.trans h.inflate
  mirror := h'.mirror.trans h.mirror
  visibility := h'.visibility.trans h.visibility
  boxUv := h'.boxUv.trans h.boxUv
  uvOffset := h'.uvOffset.trans h.uvOffset
  originAnchor := h'.originAnchor
  centerAnchor := h'.centerAnchor
  explicit := by rw [h'.explicit, h.explicit]

/-- The copy is the source moved on by `delta`, as often as its number says. -/
structure ShiftedBy [Scalar K] (source : Cube K) (delta : Vec3 K) (number : ℕ) (copy : Cube K) :
    Prop where
  name : copy.name = copy.id
  lower : ∀ axis, copy.lower.get axis =
    source.lower.get axis + delta.get axis * Scalar.ofNat number
  upper : ∀ axis, copy.upper.get axis =
    source.upper.get axis + delta.get axis * Scalar.ofNat number
  origin : ∀ axis, copy.origin.get axis =
    source.origin.get axis + delta.get axis * Scalar.ofNat number
  rotation : copy.rotation = source.rotation

lemma copyIds_nodup (source : Cube K) (directive : Spec.Directive K) :
    (source.copyIds directive).Nodup := by
  cases directive with
  | mirror m => exact List.nodup_singleton _
  | repetition r => exact numbered_nodup _ _
  | radial r => exact numbered_nodup _ _
  | unknown type value => exact List.nodup_nil

variable [Scalar K]

lemma map_id_copies (source : Cube K) (directive : Spec.Directive K) :
    (source.copies directive).map id = source.copyIds directive := by
  cases directive with
  | mirror m => rfl
  | repetition r => exact List.map_map
  | radial r => exact List.map_map
  | unknown type value => rfl

lemma length_copies (source : Cube K) (directive : Spec.Directive K) :
    (source.copies directive).length = directive.count := by
  cases directive with
  | mirror m => rfl
  | repetition r => simp [copies, Spec.Directive.count]
  | radial r => simp [copies, Spec.Directive.count]
  | unknown type value => rfl

lemma shiftedBy_shifted (source : Cube K) (r : Spec.Repetition K) (number : ℕ) :
    source.ShiftedBy r.delta number (source.shifted r number) where
  name := rfl
  lower axis := by cases axis <;> rfl
  upper axis := by cases axis <;> rfl
  origin axis := by cases axis <;> rfl
  rotation := rfl

lemma shiftedBy_of_getElem? {source copy : Cube K} {r : Spec.Repetition K} {position : ℕ}
    (h : (source.copies (.repetition r))[position]? = some copy) :
    source.ShiftedBy r.delta (position + 1) copy := by
  rw [copies, List.getElem?_map, Option.map_eq_some_iff] at h
  obtain ⟨position, hposition, rfl⟩ := h
  obtain ⟨-, rfl⟩ := List.getElem?_eq_some_iff.mp hposition
  rw [List.getElem_range]
  exact source.shiftedBy_shifted r _

lemma copyOf_of_mem {source copy : Cube K} {directive : Spec.Directive K}
    (h : copy ∈ source.copies directive) : source.CopyOf copy := by
  cases directive with
  | mirror m =>
    obtain rfl := List.mem_singleton.mp h
    exact copyOf_copy ..
  | repetition r =>
    obtain ⟨position, -, rfl⟩ := List.mem_map.mp h
    exact copyOf_copy ..
  | radial r =>
    obtain ⟨position, -, rfl⟩ := List.mem_map.mp h
    exact copyOf_copy ..
  | unknown type value => cases h

end Cube

/-- A directive may be carried out on the cubes that are there: its source is one of them, it makes
a copy at least, there is room for all its copies, and their ids are new. -/
structure Ready (maxCubes : ℕ) (present : List (Cube K)) (directive : Spec.Directive K)
    (source : Cube K) : Prop where
  source_mem : source ∈ present
  named : directive.source? = some source.id
  count_pos : 1 ≤ directive.count
  room : present.length + directive.count ≤ maxCubes
  new : ∀ id ∈ source.copyIds directive, id ∉ present.map Cube.id

/-- Why a directive is not carried out on the cubes that are there. -/
inductive Refused (maxCubes : ℕ) (present : List (Cube K)) (directive : Spec.Directive K)
    (index : ℕ) : Fault K → Prop
  | unknownSource {id : String} : directive.source? = some id → id ∉ present.map Cube.id →
      Refused maxCubes present directive index (.unknownSource index id)
  | zeroCount {source : Cube K} : source ∈ present → directive.source? = some source.id →
      directive.count = 0 → Refused maxCubes present directive index (.zeroCount index)
  | tooMany {source : Cube K} : source ∈ present → directive.source? = some source.id →
      1 ≤ directive.count → maxCubes < present.length + directive.count →
      Refused maxCubes present directive index
        (.tooManyCubes (present.length + directive.count) maxCubes)
  | taken {source : Cube K} {id : String} : source ∈ present →
      directive.source? = some source.id → 1 ≤ directive.count →
      present.length + directive.count ≤ maxCubes →
      (source.copyIds directive).find? (fun id => id ∈ present.map Cube.id) = some id →
      Refused maxCubes present directive index (.duplicateCopy index id)

lemma Refused.named {maxCubes : ℕ} {present : List (Cube K)} {directive : Spec.Directive K}
    {index : ℕ} {fault : Fault K} (h : Refused maxCubes present directive index fault) :
    ∃ id, directive.source? = some id := by
  cases h with
  | unknownSource hnamed => exact ⟨_, hnamed⟩
  | zeroCount _ hnamed => exact ⟨_, hnamed⟩
  | tooMany _ hnamed => exact ⟨_, hnamed⟩
  | taken _ hnamed => exact ⟨_, hnamed⟩

section Copies

variable {index : ℕ} {cubes cubes' : Cubes K} {cube : Cube K} {made : List (Cube K)}
  {fault : Fault K}

lemma addCopy_new (h : cube.id ∉ cubes.ids) : addCopy index cubes cube = .ok (cubes.insert cube) :=
  if_neg fun hc => h (Roster.contains_iff.mp hc)

lemma addCopy_taken (h : cube.id ∈ cubes.ids) :
    addCopy index cubes cube = .error (.duplicateCopy index cube.id) :=
  if_pos (Roster.contains_iff.mpr h)

lemma foldlM_addCopy_ok (hnodup : (made.map Cube.id).Nodup) :
    made.foldlM (addCopy index) cubes = .ok cubes' ↔
      (∀ id ∈ made.map Cube.id, id ∉ cubes.ids) ∧ cubes'.toList = cubes.toList ++ made := by
  induction made generalizing cubes with
  | nil =>
    simp only [List.foldlM_nil, pure, Except.pure, Except.ok.injEq, List.map_nil, List.not_mem_nil,
      false_implies, implies_true, List.append_nil, true_and]
    constructor
    · rintro rfl
      rfl
    · exact fun h => Roster.ext_of_toList h.symm
  | cons cube made ih =>
    obtain ⟨hcube, hnodup⟩ := List.nodup_cons.mp hnodup
    rw [List.foldlM_cons, List.map_cons, List.forall_mem_cons]
    by_cases hid : cube.id ∈ cubes.ids
    · simp [addCopy_taken hid, hid, bind, Except.bind]
    -- copies have different ids, so that the first one is in the way of no other
    · have hnew : (∀ id ∈ made.map Cube.id, id ∉ (cubes.insert cube).ids) ↔
          ∀ id ∈ made.map Cube.id, id ∉ cubes.ids := by
        rw [Roster.ids_insert_of_not_mem hid]
        refine forall₂_congr fun id hm => not_congr ?_
        rw [List.mem_append, List.mem_singleton]
        apply or_iff_left
        rintro rfl
        exact hcube hm
      rw [addCopy_new hid]
      refine (ih hnodup).trans ?_
      rw [hnew, Roster.toList_insert_of_not_mem hid, List.append_assoc, and_iff_right hid]
      exact Iff.rfl

lemma foldlM_addCopy_error (hnodup : (made.map Cube.id).Nodup) :
    made.foldlM (addCopy index) cubes = .error fault ↔
      ∃ id, (made.map Cube.id).find? (fun id => id ∈ cubes.ids) = some id ∧
        fault = .duplicateCopy index id := by
  induction made generalizing cubes with
  | nil => simp [pure, Except.pure]
  | cons cube made ih =>
    obtain ⟨hcube, hnodup⟩ := List.nodup_cons.mp hnodup
    rw [List.foldlM_cons, List.map_cons, List.find?_cons]
    by_cases hid : cube.id ∈ cubes.ids
    · simp [addCopy_taken hid, hid, bind, Except.bind, eq_comm]
    · have hfind : (made.map Cube.id).find? (fun id => id ∈ (cubes.insert cube).ids) =
          (made.map Cube.id).find? (fun id => id ∈ cubes.ids) := by
        apply List.find?_congr
        intro id hm
        have hne : id ≠ cube.id := fun h => hcube (h ▸ hm)
        simp only [Roster.ids_insert_of_not_mem hid, List.mem_append, List.mem_singleton]
        exact decide_eq_decide.mpr (or_iff_left hne)
      rw [addCopy_new hid]
      refine (ih hnodup).trans ?_
      simp [hfind, hid]

end Copies

def passedOver (directives : List (Spec.Directive K)) (start : ℕ) : List Warning :=
  (directives.zipIdx start).filterMap fun entry => entry.1.warning? entry.2

lemma passedOver_cons (directive : Spec.Directive K) (rest : List (Spec.Directive K)) (start : ℕ) :
    passedOver (directive :: rest) start =
      (directive.warning? start).toList ++ passedOver rest (start + 1) := by
  rw [passedOver, List.zipIdx_cons, List.filterMap_cons]
  cases directive.warning? start <;> rfl

lemma passedOver_named (directives : List (Spec.Directive K)) (start : ℕ) :
    passedOver (directives.filter (·.source?.isSome)) start = [] := by
  apply List.filterMap_eq_nil_iff.mpr
  intro entry hm
  have hnamed := (List.mem_filter.mp (List.fst_mem_of_mem_zipIdx hm)).2
  obtain ⟨id, hid⟩ := Option.isSome_iff_exists.mp hnamed
  exact Spec.Directive.warning?_of_named entry.2 hid

lemma Copying.ext_of {c c' : Copying K} (hcubes : c.cubes.toList = c'.cubes.toList)
    (hwarnings : c.warnings = c'.warnings) : c = c' := by
  obtain ⟨cubes, warnings⟩ := c
  obtain ⟨cubes', warnings'⟩ := c'
  obtain rfl : cubes = cubes' := Roster.ext_of_toList hcubes
  obtain rfl : warnings = warnings' := hwarnings
  rfl

variable [Scalar K]

structure Made (source : Cube K) (directive : Spec.Directive K) (made : List (Cube K)) : Prop where
  cubes : made = source.copies directive
  ids : made.map Cube.id = source.copyIds directive
  count : made.length = directive.count
  copies : ∀ copy ∈ made, source.CopyOf copy
  shifted : ∀ r, directive = .repetition r → ∀ position copy, made[position]? = some copy →
    source.ShiftedBy r.delta (position + 1) copy

lemma made_copies (source : Cube K) (directive : Spec.Directive K) :
    Made source directive (source.copies directive) where
  cubes := rfl
  ids := source.map_id_copies directive
  count := source.length_copies directive
  copies _ hcopy := Cube.copyOf_of_mem hcopy
  shifted r hr position copy hcopy := by
    subst hr
    exact Cube.shiftedBy_of_getElem? hcopy

/-- The blocks of copies that directives add to the cubes that are there, each one at its turn. -/
inductive Turns (maxCubes : ℕ) :
    List (Cube K) → List (Spec.Directive K) → List (List (Cube K)) → Prop
  | nil {present} : Turns maxCubes present [] []
  | unknown {present rest blocks type value} : Turns maxCubes present rest blocks →
      Turns maxCubes present (.unknown type value :: rest) ([] :: blocks)
  | known {present directive rest source made blocks} :
      Ready maxCubes present directive source → Made source directive made →
      Turns maxCubes (present ++ made) rest blocks →
      Turns maxCubes present (directive :: rest) (made :: blocks)

variable {maxCubes start : ℕ} {present : List (Cube K)} {directives : List (Spec.Directive K)}
  {blocks : List (List (Cube K))}

lemma Turns.length_le (h : Turns maxCubes present directives blocks)
    (hroom : present.length ≤ maxCubes) : (present ++ blocks.flatten).length ≤ maxCubes := by
  induction h with
  | nil => simpa using hroom
  | unknown _ ih => exact ih hroom
  | known hready hmade _ ih =>
    rw [List.flatten_cons, ← List.append_assoc]
    apply ih
    rw [List.length_append, hmade.count]
    exact hready.room

lemma Turns.of_named (h : Turns maxCubes present directives blocks) :
    ∃ blocks', Turns maxCubes present (directives.filter (·.source?.isSome)) blocks' ∧
      blocks'.flatten = blocks.flatten := by
  induction h with
  | nil => exact ⟨[], .nil, rfl⟩
  | unknown _ ih => exact ih
  | @known _ directive _ _ made _ hready hmade _ ih =>
    obtain ⟨blocks', hturns, hblocks⟩ := ih
    refine ⟨made :: blocks', ?_, by rw [List.flatten_cons, List.flatten_cons, hblocks]⟩
    rw [List.filter_cons_of_pos (by rw [hready.named]; rfl)]
    exact .known hready hmade hturns

lemma Turns.exists_source {directive : Spec.Directive K} {id : String}
    (h : Turns maxCubes present directives blocks) (hd : directive ∈ directives)
    (hnamed : directive.source? = some id) : ∃ source ∈ present ++ blocks.flatten,
      source.id = id ∧ ∀ copy ∈ source.copies directive, copy ∈ blocks.flatten := by
  induction h with
  | nil => cases hd
  | unknown _ ih =>
    rcases List.mem_cons.mp hd with rfl | hd
    · cases hnamed
    · exact ih hd
  | @known present _ _ source made blocks hready hmade _ ih =>
    rw [List.flatten_cons]
    rcases List.mem_cons.mp hd with rfl | hd
    · refine ⟨source, List.mem_append_left _ hready.source_mem,
        Option.some.inj (hready.named.symm.trans hnamed), fun copy hcopy => ?_⟩
      exact List.mem_append_left _ (hmade.cubes ▸ hcopy)
    · obtain ⟨source, hsource, hid, hcopies⟩ := ih hd
      rw [List.append_assoc] at hsource
      exact ⟨source, hsource, hid, fun copy hcopy => List.mem_append_right _ (hcopies copy hcopy)⟩

lemma Turns.exists_directive {cube : Cube K} (h : Turns maxCubes present directives blocks)
    (hc : cube ∈ blocks.flatten) :
    ∃ directive ∈ directives, ∃ source : Cube K, cube ∈ source.copies directive := by
  induction h with
  | nil => cases hc
  | unknown _ ih =>
    obtain ⟨directive, hd, hcopy⟩ := ih hc
    exact ⟨directive, List.mem_cons_of_mem _ hd, hcopy⟩
  | @known _ directive _ source _ _ _ hmade _ ih =>
    rcases List.mem_append.mp hc with hc | hc
    · exact ⟨directive, List.mem_cons_self, source, hmade.cubes ▸ hc⟩
    · obtain ⟨directive, hd, hcopy⟩ := ih hc
      exact ⟨directive, List.mem_cons_of_mem _ hd, hcopy⟩

section Steps

variable {c c' : Copying K} {directive : Spec.Directive K} {index : ℕ} {id : String}
  {source : Cube K} {fault : Fault K}

lemma carryOut_missing (hnamed : directive.source? = some id) (h : id ∉ c.cubes.ids) :
    c.carryOut maxCubes (directive, index) = .error (.unknownSource index id) := by
  have hnone : c.cubes.get? id = none := Roster.get?_eq_none.mpr h
  cases directive with
  | unknown type value => cases hnamed
  | _ =>
    cases hnamed
    simp only [Copying.carryOut, expansion?]
    rw [hnone]

lemma carryOut_found (hmem : source ∈ c.cubes.toList)
    (hnamed : directive.source? = some source.id) :
    c.carryOut maxCubes (directive, index) =
      if directive.count = 0 then .error (.zeroCount index)
      else if maxCubes < c.cubes.toList.length + directive.count then
        .error (.tooManyCubes (c.cubes.toList.length + directive.count) maxCubes)
      else ((source.copies directive).foldlM (addCopy index) c.cubes).map fun cubes =>
        { c with cubes } := by
  have hget (id : String) (hid : source.id = id) : c.cubes.get? id = some source :=
    Roster.get?_eq_some.mpr ⟨hmem, hid⟩
  cases directive with
  | unknown type value => cases hnamed
  | _ =>
    simp only [Copying.carryOut, expansion?]
    rw [hget _ (Option.some.inj hnamed).symm]
    rfl

omit [Scalar K] in
lemma missing_or_found (cubes : Cubes K) (hnamed : directive.source? = some id) :
    id ∉ cubes.ids ∨ ∃ source ∈ cubes.toList, directive.source? = some source.id := by
  by_cases h : id ∈ cubes.ids
  · obtain ⟨source, hmem, rfl⟩ := Roster.mem_ids.mp h
    exact .inr ⟨source, hmem, hnamed⟩
  · exact .inl h

omit [Scalar K] in
lemma Ready.unique {cubes : Cubes K} {other : Cube K}
    (h : Ready maxCubes cubes.toList directive other) (hmem : source ∈ cubes.toList)
    (hnamed : directive.source? = some source.id) : other = source :=
  Roster.eq_of_id_eq h.source_mem hmem (Option.some.inj (h.named.symm.trans hnamed))

lemma foldlM_copies_ok {cubes cubes' : Cubes K} :
    (source.copies directive).foldlM (addCopy index) cubes = .ok cubes' ↔
      (∀ id ∈ source.copyIds directive, id ∉ cubes.ids) ∧
        cubes'.toList = cubes.toList ++ source.copies directive := by
  have hids := source.map_id_copies directive
  rw [foldlM_addCopy_ok (hids ▸ source.copyIds_nodup directive), hids]

lemma foldlM_copies_error {cubes : Cubes K} :
    (source.copies directive).foldlM (addCopy index) cubes = .error fault ↔
      ∃ id, (source.copyIds directive).find? (fun id => id ∈ cubes.ids) = some id ∧
        fault = .duplicateCopy index id := by
  have hids := source.map_id_copies directive
  rw [foldlM_addCopy_error (hids ▸ source.copyIds_nodup directive), hids]

lemma carryOut_ok (hnamed : directive.source? = some id) :
    c.carryOut maxCubes (directive, index) = .ok c' ↔
      ∃ source made, Ready maxCubes c.cubes.toList directive source ∧ Made source directive made ∧
        c'.cubes.toList = c.cubes.toList ++ made ∧ c'.warnings = c.warnings := by
  rcases missing_or_found c.cubes hnamed with hmissing | ⟨source, hmem, hnamed⟩
  · rw [carryOut_missing hnamed hmissing]
    constructor
    · intro h
      cases h
    · rintro ⟨source, made, hready, -⟩
      apply (hmissing _).elim
      rw [← Option.some.inj (hready.named.symm.trans hnamed)]
      exact Roster.mem_ids_of_mem hready.source_mem
  · rw [carryOut_found hmem hnamed]
    constructor
    · intro h
      split_ifs at h with hcount hroom
      obtain ⟨cubes, hfold, rfl⟩ := Attempts.map_ok.mp h
      obtain ⟨hnew, hcubes⟩ := foldlM_copies_ok.mp hfold
      have hready : Ready maxCubes c.cubes.toList directive source :=
        ⟨hmem, hnamed, Nat.pos_of_ne_zero hcount, Nat.not_lt.mp hroom, hnew⟩
      exact ⟨source, _, hready, made_copies source directive, hcubes, rfl⟩
    · rintro ⟨other, made, hready, hmade, hcubes, hwarnings⟩
      obtain rfl := hready.unique hmem hnamed
      rw [if_neg (Nat.ne_of_gt hready.count_pos), if_neg (Nat.not_lt.mpr hready.room),
        Attempts.map_ok]
      rw [hmade.cubes] at hcubes
      exact ⟨c'.cubes, foldlM_copies_ok.mpr ⟨hready.new, hcubes⟩,
        Copying.ext_of rfl hwarnings.symm⟩

lemma exists_carryOut (index : ℕ) {made : List (Cube K)}
    (hready : Ready maxCubes c.cubes.toList directive source) (hmade : Made source directive made) :
    ∃ c', c.carryOut maxCubes (directive, index) = .ok c' ∧
      c'.cubes.toList = c.cubes.toList ++ made ∧ c'.warnings = c.warnings := by
  cases hfold : (source.copies directive).foldlM (addCopy index) c.cubes with
  | error fault =>
    obtain ⟨id, hfind, -⟩ := foldlM_copies_error.mp hfold
    have htaken : id ∈ c.cubes.ids := by simpa using List.find?_some hfind
    exact (hready.new id (List.mem_of_find?_eq_some hfind) htaken).elim
  | ok cubes =>
    have hcubes : cubes.toList = c.cubes.toList ++ made :=
      hmade.cubes ▸ (foldlM_copies_ok.mp hfold).2
    exact ⟨{ c with cubes },
      (carryOut_ok hready.named).mpr ⟨source, made, hready, hmade, hcubes, rfl⟩, hcubes, rfl⟩

lemma carryOut_error (hnamed : directive.source? = some id) :
    c.carryOut maxCubes (directive, index) = .error fault ↔
      Refused maxCubes c.cubes.toList directive index fault := by
  constructor
  · intro h
    rcases missing_or_found c.cubes hnamed with hmissing | ⟨source, hmem, hnamed⟩
    · rw [carryOut_missing hnamed hmissing] at h
      cases h
      exact .unknownSource hnamed hmissing
    · rw [carryOut_found hmem hnamed] at h
      split_ifs at h with hcount hroom
      · cases h
        exact .zeroCount hmem hnamed hcount
      · cases h
        exact .tooMany hmem hnamed (Nat.pos_of_ne_zero hcount) hroom
      · obtain ⟨taken, hfind, rfl⟩ := foldlM_copies_error.mp (Attempts.map_error.mp h)
        exact .taken hmem hnamed (Nat.pos_of_ne_zero hcount) (Nat.not_lt.mp hroom) hfind
  · intro h
    cases h with
    | unknownSource hnamed hmissing => exact carryOut_missing hnamed hmissing
    | zeroCount hmem hnamed hcount =>
      rw [carryOut_found hmem hnamed]
      exact if_pos hcount
    | tooMany hmem hnamed hcount hroom =>
      rw [carryOut_found hmem hnamed, if_neg (Nat.ne_of_gt hcount)]
      exact if_pos hroom
    | taken hmem hnamed hcount hroom hfind =>
      rw [carryOut_found hmem hnamed, if_neg (Nat.ne_of_gt hcount), if_neg (Nat.not_lt.mpr hroom)]
      exact Attempts.map_error.mpr (foldlM_copies_error.mpr ⟨_, hfind, rfl⟩)

end Steps

section Runs

variable {c c' : Copying K} {cubes : Cubes K} {fault : Fault K}

lemma turns_of_foldlM
    (h : (directives.zipIdx start).foldlM (Copying.carryOut maxCubes) c = .ok c') :
    ∃ blocks, Turns maxCubes c.cubes.toList directives blocks ∧
      c'.cubes.toList = c.cubes.toList ++ blocks.flatten ∧
      c'.warnings = c.warnings ++ passedOver directives start := by
  induction directives generalizing c start with
  | nil =>
    cases h
    exact ⟨[], .nil, (List.append_nil _).symm, (List.append_nil _).symm⟩
  | cons directive rest ih =>
    rw [List.zipIdx_cons, List.foldlM_cons, Attempts.bind_ok] at h
    obtain ⟨next, hstep, h⟩ := h
    obtain ⟨blocks, hturns, hcubes, hwarnings⟩ := ih h
    rw [passedOver_cons]
    rcases directive.named_or_unknown with ⟨id, hnamed⟩ | ⟨type, value, rfl⟩
    · obtain ⟨source, made, hready, hmade, hnext, hsame⟩ := (carryOut_ok hnamed).mp hstep
      rw [hnext] at hturns hcubes
      rw [Spec.Directive.warning?_of_named start hnamed]
      refine ⟨made :: blocks, .known hready hmade hturns, ?_, hsame ▸ hwarnings⟩
      rw [hcubes, List.flatten_cons, List.append_assoc]
    · cases hstep
      refine ⟨[] :: blocks, .unknown hturns, hcubes, ?_⟩
      rw [hwarnings, List.append_assoc]
      rfl

lemma exists_foldlM_carryOut (h : Turns maxCubes present directives blocks)
    (hc : c.cubes.toList = present) :
    ∃ c', (directives.zipIdx start).foldlM (Copying.carryOut maxCubes) c = .ok c' ∧
      c'.cubes.toList = present ++ blocks.flatten ∧
      c'.warnings = c.warnings ++ passedOver directives start := by
  induction h generalizing c start with
  | nil => exact ⟨c, rfl, by rw [hc, List.flatten_nil, List.append_nil], (List.append_nil _).symm⟩
  | @unknown present rest blocks type value _ ih =>
    let next : Copying K := { c with warnings := c.warnings ++ [.unknownDirective start type] }
    obtain ⟨c', h, hcubes, hwarnings⟩ := @ih (start + 1) next hc
    refine ⟨c', h, hcubes, ?_⟩
    · rw [hwarnings, passedOver_cons, List.append_assoc]
      rfl
  | @known present directive rest source made blocks hready hmade _ ih =>
    subst hc
    obtain ⟨next, hstep, hnext, hsame⟩ := exists_carryOut start hready hmade
    obtain ⟨c', h, hcubes, hwarnings⟩ := @ih (start + 1) next hnext
    refine ⟨c', ?_, ?_, ?_⟩
    · rw [List.zipIdx_cons, List.foldlM_cons, hstep]
      exact h
    · rw [hcubes, List.flatten_cons, List.append_assoc]
    · rw [hwarnings, hsame, passedOver_cons, Spec.Directive.warning?_of_named start hready.named]
      rfl

/-- What comes of directives that are all carried out, each with its block of copies. -/
structure Expanded (maxCubes : ℕ) (directives : List (Spec.Directive K)) (cubes : Cubes K)
    (c : Copying K) (blocks : List (List (Cube K))) : Prop where
  turns : Turns maxCubes cubes.toList directives blocks
  appended : c.cubes.toList = cubes.toList ++ blocks.flatten
  bounded : c.cubes.size ≤ maxCubes
  warnings : c.warnings = passedOver directives 0
  /-- Directives of unknown types make no difference to the cubes. -/
  named : expand maxCubes (directives.filter (·.source?.isSome)) cubes = .ok { cubes := c.cubes }

lemma expand_ok : expand maxCubes directives cubes = .ok c ↔
    ∃ blocks, Turns maxCubes cubes.toList directives blocks ∧
      c.cubes.toList = cubes.toList ++ blocks.flatten ∧ c.warnings = passedOver directives 0 := by
  constructor
  · exact turns_of_foldlM
  · rintro ⟨blocks, hturns, hcubes, hwarnings⟩
    obtain ⟨c', h, hcubes', hwarnings'⟩ := exists_foldlM_carryOut (c := { cubes }) hturns rfl
    rw [Copying.ext_of (hcubes.trans hcubes'.symm) (hwarnings.trans hwarnings'.symm)]
    exact h

lemma expanded_of_turns (hroom : cubes.size ≤ maxCubes)
    (hturns : Turns maxCubes cubes.toList directives blocks)
    (hcubes : c.cubes.toList = cubes.toList ++ blocks.flatten)
    (hwarnings : c.warnings = passedOver directives 0) :
    Expanded maxCubes directives cubes c blocks where
  turns := hturns
  appended := hcubes
  bounded := by
    rw [Roster.size, hcubes]
    exact hturns.length_le hroom
  warnings := hwarnings
  named := by
    obtain ⟨blocks', hturns', hblocks⟩ := hturns.of_named
    refine expand_ok.mpr ⟨blocks', hturns', ?_, (passedOver_named directives 0).symm⟩
    rw [hblocks]
    exact hcubes

lemma expand_error : expand maxCubes directives cubes = .error fault ↔
    ∃ before directive after blocks, directives = before ++ directive :: after ∧
      Turns maxCubes cubes.toList before blocks ∧
      Refused maxCubes (cubes.toList ++ blocks.flatten) directive before.length fault := by
  rw [expand, Attempts.foldlM_error]
  constructor
  · rintro ⟨before, entry, after, c, hsplit, hbefore, hentry⟩
    obtain ⟨before, rest, rfl, rfl, hrest⟩ := List.zipIdx_eq_append_iff.mp hsplit
    obtain ⟨directive, after, rfl, rfl, rfl⟩ := List.zipIdx_eq_cons_iff.mp hrest.symm
    obtain ⟨blocks, hturns, hcubes, -⟩ := turns_of_foldlM hbefore
    refine ⟨before, directive, after, blocks, rfl, hturns, ?_⟩
    rcases directive.named_or_unknown with ⟨id, hnamed⟩ | ⟨type, value, rfl⟩
    · rw [carryOut_error hnamed, hcubes, Nat.zero_add] at hentry
      exact hentry
    · cases hentry
  · rintro ⟨before, directive, after, blocks, rfl, hturns, hrefused⟩
    obtain ⟨c, hbefore, hcubes, -⟩ := exists_foldlM_carryOut (c := { cubes }) hturns rfl
    obtain ⟨id, hnamed⟩ := hrefused.named
    refine ⟨before.zipIdx, (directive, before.length), after.zipIdx (before.length + 1), c, ?_,
      hbefore, ?_⟩
    · rw [List.zipIdx_append, List.zipIdx_cons, Nat.zero_add]
    · rw [carryOut_error hnamed, hcubes]
      exact hrefused

lemma exists_source_of_expand {directive : Spec.Directive K} {id : String}
    (h : expand maxCubes directives cubes = .ok c) (hd : directive ∈ directives)
    (hnamed : directive.source? = some id) : ∃ source ∈ c.cubes.toList,
      source.id = id ∧ ∀ copy ∈ source.copies directive, copy ∈ c.cubes.toList := by
  obtain ⟨blocks, hturns, hcubes, -⟩ := expand_ok.mp h
  obtain ⟨source, hsource, hid, hcopies⟩ := hturns.exists_source hd hnamed
  rw [hcubes]
  exact ⟨source, hsource, hid, fun copy hcopy => List.mem_append_right _ (hcopies copy hcopy)⟩

lemma mem_of_mem_expand {cube : Cube K} (h : expand maxCubes directives cubes = .ok c)
    (hc : cube ∈ c.cubes.toList) : cube ∈ cubes.toList ∨
      ∃ directive ∈ directives, ∃ source : Cube K, cube ∈ source.copies directive := by
  obtain ⟨blocks, hturns, hcubes, -⟩ := expand_ok.mp h
  rcases List.mem_append.mp (hcubes ▸ hc) with hc | hc
  · exact .inl hc
  · exact .inr (hturns.exists_directive hc)

/-- Directives are carried out exactly if each known one, at its turn, finds its source and room for
copies with new ids; otherwise the first one that does not says what it misses. -/
theorem expand_exact (hroom : cubes.size ≤ maxCubes) :
    ((∃ c, expand maxCubes directives cubes = .ok c) ↔
      ∃ blocks, Turns maxCubes cubes.toList directives blocks) ∧
    (∀ c, expand maxCubes directives cubes = .ok c →
      ∃ blocks, Expanded maxCubes directives cubes c blocks) ∧
    ∀ fault, expand maxCubes directives cubes = .error fault ↔
      ∃ before directive after blocks, directives = before ++ directive :: after ∧
        Turns maxCubes cubes.toList before blocks ∧
        Refused maxCubes (cubes.toList ++ blocks.flatten) directive before.length fault := by
  refine ⟨⟨?_, ?_⟩, ?_, fun fault => expand_error⟩
  · rintro ⟨c, h⟩
    obtain ⟨blocks, hturns, -⟩ := expand_ok.mp h
    exact ⟨blocks, hturns⟩
  · rintro ⟨blocks, hturns⟩
    exact (exists_foldlM_carryOut (c := { cubes }) hturns rfl).imp fun _ h => h.1
  · intro c h
    obtain ⟨blocks, hturns, hcubes, hwarnings⟩ := expand_ok.mp h
    exact ⟨blocks, expanded_of_turns hroom hturns hcubes hwarnings⟩

end Runs

def chain : List (Spec.Directive Float) :=
  [.repetition { source := "block", count := 2, delta := ⟨16, 0, 0⟩ }, .unknown "spiral" .null,
    .mirror { source := "block_repeat_2", axis := .x, offset := 0, newId := some "twin" }]

theorem expand_exact_chain : (Template.blockEntity.modelCubes (K := Float)).size ≤ 4 ∧
    ∃ c blocks, expand 4 chain Template.blockEntity.modelCubes = .ok c ∧
      c.cubes.ids = ["block", "block_repeat_1", "block_repeat_2", "twin"] ∧
      Expanded 4 chain Template.blockEntity.modelCubes c blocks := by
  have hroom : (Template.blockEntity.modelCubes (K := Float)).size ≤ 4 := by decide
  obtain ⟨c, hc⟩ : ∃ c, expand 4 chain Template.blockEntity.modelCubes = .ok c :=
    Attempts.exists_ok (by decide +kernel)
  have hids : c.cubes.ids = ["block", "block_repeat_1", "block_repeat_2", "twin"] := by
    apply Attempts.holds_of_all (p := fun c : Copying Float =>
      c.cubes.ids = ["block", "block_repeat_1", "block_repeat_2", "twin"]) hc
    decide +kernel
  obtain ⟨blocks, hexpanded⟩ := (expand_exact hroom).2.1 c hc
  exact ⟨hroom, c, blocks, hc, hids, hexpanded⟩

end Model

end Armature
