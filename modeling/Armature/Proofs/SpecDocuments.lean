import Armature.Proofs.SpecEntries

/-! A spec that is read of any JSON value is read back from what is written of it. -/

namespace Armature.Spec

open Json

section Axes

lemma axisReader_eq {o : Outline} (h : ∀ key, o ≠ .object [(key, .object [] true)] true) :
    axisReader o = Axis.reader o := by
  rw [axisReader]
  exact h

lemma axis_restores (axis : Axis) : Restores axisReader Axis.toJson axis := by
  have h := Axis.restores axis
  exact restores_of_ne_null h.proper (by simp [Axis.toJson, Outline.ofJson])
    (by rw [axisReader_eq (by simp [Axis.toJson, Outline.ofJson]), h.read])

/-- A name beside an empty object has one order of its members only. -/
lemma eq_of_hollow {v w : Json} (hvw : Reordered v w) {key : Option String}
    (hv : Outline.ofJson v = .object [(key, .object [] true)] true) : w = v := by
  match v, hv with
  | object [(_, object [])], _ =>
    obtain ⟨value, rfl, hvalue⟩ := reordered_singleton hvw
    match value, hvalue with
    | object members, ⟨[], hperm, _⟩ => rw [List.perm_nil.mp hperm]

@[simp]
lemma axis_orderless : Orderless axisReader := by
  intro v w hv hvw axis h
  by_cases hollow : ∃ key, Outline.ofJson v = .object [(key, .object [] true)] true
  · obtain ⟨key, hkey⟩ := hollow
    rwa [eq_of_hollow hvw hkey]
  · have hollow' : ∀ key, Outline.ofJson w ≠ .object [(key, .object [] true)] true := fun key hkey =>
      hollow ⟨key, eq_of_hollow (hvw.symm (fun _ _ => Eq.symm) v w) hkey ▸ hkey⟩
    rw [axisReader_eq (not_exists.mp hollow)] at h
    rw [axisReader_eq hollow']
    exact Axis.orderless hv hvw h

end Axes

section Records

def Mirror.isFinite (m : Mirror Float) : Bool := m.offset.isFinite

lemma Mirror.restores {m : Mirror Float} (h : m.isFinite = true) :
    Restores (Reader.record fields .refuse blank) (fun m => record m.members) m :=
  record_restores (by decide) rfl <|
    .mandatory (text_restores m.source) <|
    .mandatory (axis_restores m.axis) <|
    .defaulted (float_restores h) <|
    .unset rfl (fun newId _ => text_restores newId) <|
    .unset rfl (fun newName _ => text_restores newName) <|
    .done m

lemma Mirror.settable : Settable fields where
  commuting := by simp [fields, FieldReader.unset, FieldReader.defaulted, FieldReader.mandatory]
  orderless := by simp [fields, FieldReader.unset, FieldReader.defaulted, FieldReader.mandatory]

lemma Mirror.yields : Yields (Reader.record fields .refuse blank) (·.isFinite = true) := by
  refine record_yields ?_ (by decide +kernel)
  simp only [fields, List.forall_mem_cons]
  exact ⟨mandatory_keeps yields_true fun _ _ hs _ => hs,
    mandatory_keeps yields_true fun _ _ hs _ => hs,
    defaulted_keeps float_yields fun _ _ _ hoffset => hoffset,
    unset_keeps yields_true fun _ _ hs _ => hs,
    unset_keeps yields_true fun _ _ hs _ => hs, fun _ h => nomatch h⟩

lemma count_restores {n : ℕ} (h : n ≤ countLimit) : Restores (Reader.count countLimit) ofNat n :=
  Json.count_restores (by decide) h

def Repetition.isProper (r : Repetition Float) : Bool :=
  decide (r.count ≤ countLimit) && r.delta.isFinite

lemma Repetition.restores {r : Repetition Float} (h : r.isProper = true) :
    Restores (Reader.record fields .refuse blank) (fun r => record r.members) r := by
  simp only [isProper, Bool.and_eq_true, decide_eq_true_eq] at h
  exact record_restores (by decide) rfl <|
    .mandatory (text_restores r.source) <|
    .mandatory (count_restores h.1) <|
    .mandatory (Vec3.restores h.2) <|
    .unset rfl (fun stem _ => text_restores stem) <|
    .done r

lemma Repetition.settable : Settable fields where
  commuting := by simp [fields, FieldReader.unset, FieldReader.defaulted, FieldReader.mandatory]
  orderless := by simp [fields, FieldReader.unset, FieldReader.defaulted, FieldReader.mandatory]

lemma Repetition.yields : Yields (Reader.record fields .refuse blank) (·.isProper = true) := by
  refine record_yields ?_ (by decide +kernel)
  simp only [isProper, Bool.and_eq_true, decide_eq_true_eq]
  simp only [fields, List.forall_mem_cons]
  exact ⟨mandatory_keeps yields_true fun _ _ hs _ => hs,
    mandatory_keeps (count_yields countLimit) fun _ _ hs hcount => ⟨hcount, hs.2⟩,
    mandatory_keeps Vec3.yields fun _ _ hs hdelta => ⟨hs.1, hdelta⟩,
    unset_keeps yields_true fun _ _ hs _ => hs, fun _ h => nomatch h⟩

def Radial.isProper (r : Radial Float) : Bool :=
  decide (r.count ≤ countLimit) && r.center.isFinite && r.radius.all Float.isFinite &&
    r.startAngle.all Float.isFinite

lemma Radial.restores {r : Radial Float} (h : r.isProper = true) :
    Restores (Reader.record fields .refuse blank) (fun r => record r.members) r := by
  simp only [isProper, Bool.and_eq_true, decide_eq_true_eq, and_assoc, Option.all_eq_true] at h
  obtain ⟨hcount, hcenter, hradius, hangle⟩ := h
  exact record_restores (by decide) rfl <|
    .mandatory (text_restores r.source) <|
    .mandatory (count_restores hcount) <|
    .mandatory (axis_restores r.axis) <|
    .defaulted (Vec3.restores hcenter) <|
    .unset rfl (fun radius hr => float_restores (hradius radius hr)) <|
    .unset rfl (fun angle ha => float_restores (hangle angle ha)) <|
    .unset rfl (fun stem _ => text_restores stem) <|
    .done r

lemma Radial.settable : Settable fields where
  commuting := by simp [fields, FieldReader.unset, FieldReader.defaulted, FieldReader.mandatory]
  orderless := by simp [fields, FieldReader.unset, FieldReader.defaulted, FieldReader.mandatory]

lemma Radial.yields : Yields (Reader.record fields .refuse blank) (·.isProper = true) := by
  refine record_yields ?_ (by decide +kernel)
  simp only [isProper, Bool.and_eq_true, decide_eq_true_eq, and_assoc, Option.all_eq_true]
  simp only [fields, List.forall_mem_cons]
  exact ⟨mandatory_keeps yields_true fun _ _ hs _ => hs,
    mandatory_keeps (count_yields countLimit) fun _ _ hs hcount => ⟨hcount, hs.2⟩,
    mandatory_keeps yields_true fun _ _ hs _ => hs,
    defaulted_keeps Vec3.yields fun _ _ hs hcenter => ⟨hs.1, hcenter, hs.2.2⟩,
    unset_keeps float_yields fun _ _ hs hradius => ⟨hs.1, hs.2.1, hradius, hs.2.2.2⟩,
    unset_keeps float_yields fun _ _ hs hangle => ⟨hs.1, hs.2.1, hs.2.2.1, hangle⟩,
    unset_keeps yields_true fun _ _ hs _ => hs, fun _ h => nomatch h⟩

end Records

namespace Directive

section Known

variable {σ : Type} {fields : List (FieldReader σ)} {blank : σ} {write : σ → Json} {t : σ}

lemma readKnown_ok {all : List (String × Json)} : readKnown fields blank (object all) = .ok t ↔
    Reader.record fields .refuse blank (.ofJson (object (without "type" all))) = .ok t := by
  simp only [readKnown, readValue, without]
  cases Reader.record fields .refuse blank (.ofJson (object (all.filter fun a => a.1 ≠ "type"))) <;> simp

lemma readKnown_yields {Q : σ → Prop} (h : Yields (Reader.record fields .refuse blank) Q)
    {value : Json} (hvalue : value.isProper = true) (ht : readKnown fields blank value = .ok t) :
    Q t := by
  match value, ht with
  | object all, ht => exact h (proper_without "type" hvalue) (readKnown_ok.mp ht)

/-- Wherever the type stands among the members, the others are what the rest is read from. -/
lemma typed_restores (type : String) {others : List (Option (String × Json))}
    (hs : Settable fields) (hnew : "type" ∉ (others.filterMap id).map Prod.fst)
    (h : Restores (Reader.record fields .refuse blank) write t) (hwrite : write t = record others) :
    (typed type others).isProper = true ∧
      (typed type others).sorted.get? "type" = some (.text type) ∧
      readKnown fields blank (typed type others).sorted = .ok t := by
  have hothers : (record others).isProper = true := hwrite ▸ h.proper
  obtain ⟨hkeys, hmembers⟩ := proper_object.mp hothers
  have hproper : (typed type others).isProper = true :=
    proper_object.mpr ⟨List.nodup_cons.mpr ⟨hnew, hkeys⟩, hmembers⟩
  have hsorted := reordered_sorted (typed type others) hproper
  have hall : ∃ all, (typed type others).sorted = object all := ⟨_, rfl⟩
  refine ⟨hproper, ?_⟩
  generalize (typed type others).sorted = w at hsorted hall
  change Reordered (object (("type", .text type) :: others.filterMap id)) w at hsorted
  obtain ⟨all, rfl⟩ := hall
  obtain ⟨value, hvalue, htype⟩ := Reordered.exists_member hsorted List.mem_cons_self
  constructor
  · match value, htype with
    | .text _, rfl =>
      exact (lookup_eq_some (Reordered.nodup hsorted (List.nodup_cons.mpr ⟨hnew, hkeys⟩))).mpr hvalue
  · have hrest := Reordered.without "type" hsorted
    rw [without_cons_self hnew] at hrest
    exact readKnown_ok.mpr (h.in_any_order (record_orderless hs _ _) (hwrite ▸ hrest))

end Known

def ofValue (value : Json) : Except ReadError (Directive Float) :=
  match value.get? "type" with
  | some (.text "mirror") => mirror <$> readKnown Mirror.fields Mirror.blank value
  | some (.text "repeat") => repetition <$> readKnown Repetition.fields Repetition.blank value
  | some (.text "radial") => radial <$> readKnown Radial.fields Radial.blank value
  | some (.text type) => return unknown type value
  | _ => throw .untyped

lemma reader_ofJson (v : Json) : reader (.ofJson v) = ofValue v.sorted := by
  rw [reader, raw_ofJson, bind_ok_left]
  rfl

@[simp]
lemma orderless : Orderless reader := by
  intro v w hv hvw d h
  rwa [reader_ofJson, ← sorted_congr v w hv hvw, ← reader_ofJson]

/-- What can be read back. -/
def Proper : Directive Float → Prop
  | mirror m => m.isFinite = true
  | repetition r => r.isProper = true
  | radial r => r.isProper = true
  | unknown type value => value.isProper = true ∧ value.sorted = value ∧
    value.get? "type" = some (.text type) ∧ type ∉ ["mirror", "repeat", "radial"]

lemma restores_typed {σ : Type} {fields : List (FieldReader σ)} {blank t : σ} {write : σ → Json}
    {others : List (Option (String × Json))} {type : String} {known : σ → Directive Float}
    (hvalue : ∀ value : Json, value.get? "type" = some (.text type) →
      ofValue value = known <$> readKnown fields blank value)
    (hjson : toJson (known t) = typed type others) (hs : Settable fields)
    (hnew : "type" ∉ (others.filterMap id).map Prod.fst)
    (h : Restores (Reader.record fields .refuse blank) write t) (hwrite : write t = record others) :
    Restores reader toJson (known t) := by
  obtain ⟨hproper, htype, hread⟩ := typed_restores type hs hnew h hwrite
  refine restores_of_ne_null (hjson ▸ hproper) ?_ ?_
  · simp [hjson, typed, record, Outline.ofJson]
  · rw [reader_ofJson, hjson, hvalue _ htype, hread]
    rfl

lemma restores {d : Directive Float} (h : d.Proper) : Restores reader toJson d := by
  cases d with
  | mirror m =>
    exact restores_typed (fun _ htype => by simp only [ofValue, htype]) rfl Mirror.settable
      (by simp [Mirror.members, member, member?]) (Mirror.restores h) rfl
  | repetition r =>
    exact restores_typed (fun _ htype => by simp only [ofValue, htype]) rfl Repetition.settable
      (by simp [Repetition.members, member, member?]) (Repetition.restores h) rfl
  | radial r =>
    exact restores_typed (fun _ htype => by simp only [ofValue, htype]) rfl Radial.settable
      (by simp [Radial.members, member, member?]) (Radial.restores h) rfl
  | unknown type value =>
    obtain ⟨hproper, hsorted, htype, hnew⟩ := h
    refine restores_of_ne_null hproper ?_ ?_
    · intro hnull
      cases value with
      | null => cases htype
      | _ => cases hnull
    · simp only [List.mem_cons, not_or] at hnew
      rw [reader_ofJson, toJson, hsorted, ofValue, htype]
      simp [hnew]
      rfl

lemma yields : Yields reader Proper := by
  intro v hv d hd
  have hproper : v.sorted.isProper = true := proper_of_reordered v _ hv (reordered_sorted v hv)
  rw [reader_ofJson, ofValue] at hd
  split at hd
  · obtain ⟨m, hm, rfl⟩ := map_ok_iff.mp hd
    have hread := readKnown_yields Mirror.yields hproper hm
    exact hread
  · obtain ⟨r, hr, rfl⟩ := map_ok_iff.mp hd
    have hread := readKnown_yields Repetition.yields hproper hr
    exact hread
  · obtain ⟨r, hr, rfl⟩ := map_ok_iff.mp hd
    have hread := readKnown_yields Radial.yields hproper hr
    exact hread
  · next hmirror hrepeat hradial htype =>
    cases hd
    exact ⟨hproper, sorted_sorted hv, htype, by simp_all⟩
  · cases hd

end Directive

/-- What can be read back. -/
def Proper (s : Spec Float) : Prop :=
  (∀ b ∈ s.bones, b.isFinite = true) ∧ (∀ c ∈ s.cubes, c.isFinite = true) ∧
    (∀ a ∈ s.anchors, a.isFinite = true) ∧ (∀ d ∈ s.instances, d.Proper) ∧ s.policy.isFinite = true

lemma restores {s : Spec Float} (h : s.Proper) : Restores reader toJson s := by
  obtain ⟨hbones, hcubes, hanchors, hinstances, hpolicy⟩ := h
  exact record_restores (by decide) rfl <|
    .defaulted (Template.restores s.template) <|
    .defaulted (list_restores fun b hb => Bone.restores (hbones b hb)) <|
    .defaulted (list_restores fun c hc => Cube.restores (hcubes c hc)) <|
    .defaulted (list_restores fun a ha => Anchor.restores (hanchors a ha)) <|
    .defaulted (list_restores fun d hd => Directive.restores (hinstances d hd)) <|
    .defaulted (Policy.restores hpolicy) <|
    .done s

lemma settable : Settable fields where
  commuting := by simp [fields, FieldReader.defaulted]
  orderless := by simp [fields, FieldReader.defaulted]

lemma orderless : Orderless reader := record_orderless settable .refuse _

lemma yields : Yields reader Proper := by
  refine record_yields ?_ (by simp [Proper]; rfl)
  simp only [fields, List.forall_mem_cons]
  exact ⟨defaulted_keeps yields_true fun _ _ hs _ => hs,
    defaulted_keeps (list_yields Bone.yields) fun _ _ hs h => ⟨h, hs.2⟩,
    defaulted_keeps (list_yields Cube.yields) fun _ _ hs h => ⟨hs.1, h, hs.2.2⟩,
    defaulted_keeps (list_yields Anchor.yields) fun _ _ hs h => ⟨hs.1, hs.2.1, h, hs.2.2.2⟩,
    defaulted_keeps (list_yields Directive.yields) fun _ _ hs h =>
      ⟨hs.1, hs.2.1, hs.2.2.1, h, hs.2.2.2.2⟩,
    defaulted_keeps Policy.yields fun _ _ hs h => ⟨hs.1, hs.2.1, hs.2.2.1, hs.2.2.2.1, h⟩,
    fun _ h => nomatch h⟩

end Armature.Spec
