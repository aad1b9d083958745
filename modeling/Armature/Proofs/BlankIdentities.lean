import Armature.Proofs.DerivedIds
import Armature.Proofs.Provenance

/-! Which ids and names of a model are blank. Entries, the starter rig and numbered copies have none
that is, on every way that an id or a name may take. A mirror alone takes those that it is given as
they are. -/

namespace Armature

namespace Text

lemma isBlank_of_mem {s : String} {c : Char} (hc : c ∈ s.toList) (h : isBlankChar c = false) :
    isBlank s = false := by
  refine List.all_eq_false.mpr ⟨c, hc, ?_⟩
  rw [h]
  exact Bool.false_ne_true

lemma isBlank_append (s t : String) : isBlank (s ++ t) = (isBlank s && isBlank t) := by
  rw [isBlank, String.toList_append, List.all_append]
  rfl

lemma isBlankChar_of_isSlugChar {c : Char} (h : isSlugChar c = true) : isBlankChar c = false := by
  have hrange : 97 ≤ c.toNat ∧ c.toNat ≤ 122 ∨ 48 ≤ c.toNat ∧ c.toNat ≤ 57 := by
    simpa [isSlugChar, Char.le_def, UInt32.le_iff_toNat_le] using h
  simp only [isBlankChar, inRanges, blankRanges, List.any_cons, List.any_nil, Bool.or_false,
    Bool.or_eq_false_iff, Bool.and_eq_false_iff, decide_eq_false_iff_not]
  omega

lemma isBlank_trim {s : String} (h : trim s ≠ "") : isBlank (trim s) = false := by
  have hrest : (s.toList.dropWhile isBlankChar).reverse.dropWhile isBlankChar ≠ [] := by
    intro hnil
    rw [trim, hnil] at h
    exact h rfl
  refine isBlank_of_mem ?_ (List.head_dropWhile_not isBlankChar hrest)
  rw [trim, String.toList_ofList, List.mem_reverse]
  exact List.head_mem hrest

lemma isBlank_slug {s : String} (h : words s ≠ []) : isBlank (slug s) = false := by
  obtain ⟨word, rest, hruns⟩ : ∃ word rest, runs isSlugChar (lowercase s).toList = word :: rest :=
    List.exists_cons_of_ne_nil fun hnil => h (List.map_eq_nil_iff.mpr hnil)
  have hstart : word <+: ['_'].intercalate (word :: rest) := by
    cases rest <;> simp [List.intercalate]
  obtain ⟨hword, hchars⟩ := mem_runs (hruns ▸ List.mem_cons_self)
  have hhead := List.head_mem hword
  refine isBlank_of_mem ?_ (isBlankChar_of_isSlugChar (hchars _ hhead))
  rw [toList_slug, hruns]
  exact hstart.subset hhead

end Text

namespace Identity

lemma isBlankChar_digitChar : ∀ n < 16, Text.isBlankChar (Nat.digitChar n) = false := by decide

lemma isBlank_hashId (path : String) : Text.isBlank (hashId path) = false := by
  obtain ⟨word, rest, hwords⟩ : ∃ word rest, (Blake3.hash path.toUTF8).toList = word :: rest := by
    refine List.exists_cons_of_ne_nil fun hnil => ?_
    have hlength := congrArg List.length hnil
    rw [Vector.length_toList] at hlength
    cases hlength
  have hdigit := isBlankChar_digitChar (word.toNat >>> 4 % 16) (Nat.mod_lt _ (by decide))
  refine Text.isBlank_of_mem ?_ hdigit
  rw [hashId, Blake3.hexOfText, Blake3.hex, hwords]
  simp [hashLength, Blake3.wordHex]

lemma isBlank_of_given? {id : Option String} {given : String} (h : given? id = some given) :
    Text.isBlank given = false := by
  obtain ⟨hsome, hne⟩ := Option.filter_eq_some_iff.mp h
  obtain ⟨s, -, rfl⟩ := Option.map_eq_some_iff.mp hsome
  apply Text.isBlank_trim
  rintro hempty
  rw [hempty] at hne
  cases hne

lemma isBlank_of_resolve? {policy : IdPolicy} {kind : Kind} {id parent : Option String}
    {label resolved : String} (h : resolve? policy kind id parent label = some resolved) :
    Text.isBlank resolved = false := by
  cases hid : given? id with
  | some given =>
    simp only [resolve?, hid, Option.some.injEq] at h
    exact h ▸ isBlank_of_given? hid
  | none =>
    rw [resolve?_of_none hid] at h
    cases policy with
    | explicit => cases h
    | stablePath =>
      obtain rfl := Option.some.inj h
      rw [slugId_place]
      apply Text.isBlank_slug
      rw [words_place]
      exact List.cons_ne_nil _ _
    | hash =>
      obtain rfl := Option.some.inj h
      exact isBlank_hashId _

end Identity

namespace Template

variable {K : Type} [Scalar K] {id : String}

lemma bones_not_blank {template : Template} (h : id ∈ template.bones.map (Bone.id (K := K))) :
    Text.isBlank id = false := by
  have hall : (template.bones.map (Bone.id (K := K))).all (!Text.isBlank ·) = true := by
    cases template <;> simp only [bones, root, List.map_cons, List.map_nil] <;> decide
  simpa using List.all_eq_true.mp hall id h

lemma cubes_not_blank {template : Template} (h : id ∈ template.cubes.map (Cube.id (K := K))) :
    Text.isBlank id = false := by
  have hall : (template.cubes.map (Cube.id (K := K))).all (!Text.isBlank ·) = true := by
    cases template <;> simp only [cubes, List.map_cons, List.map_nil] <;> decide
  simpa using List.all_eq_true.mp hall id h

end Template

namespace Model

variable {K : Type}

lemma identify_not_blank {policy : IdPolicy} {kind : Kind} {index : ℕ}
    {id name parent : Option String} {identity : String × String}
    (h : Spec.identify (K := K) policy kind index id name parent = .ok identity) :
    Text.isBlank identity.1 = false ∧ Text.isBlank identity.2 = false := by
  obtain ⟨label, -, hid, hname⟩ := identify_ok h
  have hidBlank := Identity.isBlank_of_resolve? hid
  refine ⟨hidBlank, ?_⟩
  rw [hname]
  cases hfilter : name.filter fun name => !Text.isBlank name with
  | none => exact hidBlank
  | some given => simpa using (Option.filter_eq_some_iff.mp hfilter).2

variable [Scalar K] {limits : Limits} {spec : Spec K} {m : Model K}

namespace Stages

variable (s : Stages limits spec)

lemma bone_not_blank {b : Bone K} (h : b ∈ s.model.bones.toList) :
    Text.isBlank b.id = false ∧ Text.isBlank b.name = false := by
  obtain ⟨b', hb', hmoved⟩ := s.bone_merged h
  rw [hmoved]
  rcases mem_addRoot.mp hb' with hb' | ⟨rfl, -⟩
  · have hindex : ∀ entry b, StandsFor (Spec.Bone.resolve spec.policy) entry b →
        ∀ index, entry.resolve spec.policy index = .ok b := fun _ _ h => resolveBone_index h
    rcases (mem_mergeEntries hindex s.bones_merged).mp hb' with ⟨entry, -, hentry⟩ | ⟨hb', -⟩
    · exact identify_not_blank (resolveBone_ok hentry).1
    · rw [Template.toList_modelBones] at hb'
      obtain ⟨bone, hbone, rfl⟩ := List.mem_map.mp hb'
      have hid := Template.bones_not_blank (List.mem_map_of_mem hbone)
      exact ⟨hid, hid⟩
  · have hid : Text.isBlank rootId = false := by decide
    exact ⟨hid, hid⟩

lemma cube_not_blank {c : Cube K} (h : c ∈ s.cubes.toList) :
    Text.isBlank c.id = false ∧ Text.isBlank c.name = false := by
  obtain ⟨c', hc', hmoved⟩ := (resolveAnchors_moved s.anchored).2 c h
  rw [hmoved]
  have hindex : ∀ entry c, StandsFor (Spec.Cube.resolve spec.policy) entry c →
      ∀ index, entry.resolve spec.policy index = .ok c := fun _ _ h => resolveCube_index h
  rcases (mem_mergeEntries hindex s.cubes_merged).mp hc' with ⟨entry, -, hentry⟩ | ⟨hc', -⟩
  · exact identify_not_blank (resolveCube_ok hentry).1
  · rw [Template.toList_modelCubes] at hc'
    obtain ⟨cube, hcube, rfl⟩ := List.mem_map.mp hc'
    have hid := Template.cubes_not_blank (List.mem_map_of_mem hcube)
    exact ⟨hid, hid⟩

end Stages

lemma isBlank_copyId (stem : String) (number : ℕ) : Text.isBlank (copyId stem number) = false := by
  change Text.isBlank (stem ++ "_" ++ toString number) = false
  have hmark : Text.isBlank "_" = false := by decide
  rw [Text.isBlank_append, Text.isBlank_append, hmark, Bool.and_false, Bool.false_and]

lemma isBlank_mirror (text : String) : Text.isBlank (text ++ "_mirror") = false := by
  have hmark : Text.isBlank "_mirror" = false := by decide
  rw [Text.isBlank_append, hmark, Bool.and_false]

/-- A text that is given, or else one that is not blank, is blank only if it is given. -/
lemma given_of_isBlank {given : Option String} {default : String}
    (hdefault : Text.isBlank default = false) (h : Text.isBlank (given.getD default) = true) :
    given = some (given.getD default) := by
  cases given with
  | none =>
    rw [Option.getD_none, hdefault] at h
    cases h
  | some text => rfl

lemma mirror_of_blank {source copy : Cube K} {directive : Spec.Directive K}
    (h : copy ∈ source.copies directive) :
    (Text.isBlank copy.id = true → ∃ d, directive = .mirror d ∧ d.newId = some copy.id) ∧
      (Text.isBlank copy.name = true →
        ∃ d, directive = .mirror d ∧ d.newName = some copy.name) := by
  have hnumbered {text stem : String} {number : ℕ} {p : Prop} (htext : text = copyId stem number)
      (hblank : Text.isBlank text = true) : p := by
    rw [htext, isBlank_copyId] at hblank
    cases hblank
  cases directive with
  | mirror d =>
    obtain rfl := List.mem_singleton.mp h
    exact ⟨fun hblank => ⟨d, rfl, given_of_isBlank (isBlank_mirror _) hblank⟩,
      fun hblank => ⟨d, rfl, given_of_isBlank (isBlank_mirror _) hblank⟩⟩
  | repetition r =>
    obtain ⟨position, -, rfl⟩ := List.mem_map.mp h
    exact ⟨hnumbered rfl, hnumbered rfl⟩
  | radial r =>
    obtain ⟨position, -, rfl⟩ := List.mem_map.mp h
    exact ⟨hnumbered rfl, hnumbered rfl⟩
  | unknown type value => cases h

lemma Stages.blank_iff (s : Stages limits spec) {mark : Cube K → String}
    (hplace : ∀ policy c, mark (c.place policy) = mark c)
    {given? : Spec.Mirror K → Option String} {text : String} (htext : Text.isBlank text = true)
    (hentry : ∀ c ∈ s.cubes.toList, Text.isBlank (mark c) = false)
    (hgiven : ∀ (source : Cube K) d, given? d = some text → mark (source.mirrored d) = text)
    (hcopy : ∀ source directive, ∀ copy ∈ Cube.copies source directive,
      Text.isBlank (mark copy) = true → ∃ d, directive = .mirror d ∧ given? d = some (mark copy)) :
    (∃ c ∈ s.model.cubes.toList, mark c = text) ↔
      ∃ d, .mirror d ∈ spec.instances ∧ given? d = some text := by
  constructor
  · rintro ⟨placed, hplaced, rfl⟩
    obtain ⟨c, hc, rfl⟩ := List.mem_map.mp hplaced
    rw [hplace] at htext ⊢
    rcases mem_of_mem_expand s.expanded hc with hc | ⟨directive, hd, source, hc⟩
    · rw [hentry c hc] at htext
      cases htext
    · obtain ⟨d, rfl, hd'⟩ := hcopy source directive c hc htext
      exact ⟨d, hd, hd'⟩
  · rintro ⟨d, hd, htext'⟩
    obtain ⟨source, -, -, hcopies⟩ := exists_source_of_expand s.expanded hd rfl
    refine ⟨(source.mirrored d).place spec.policy, ?_, ?_⟩
    · exact List.mem_map_of_mem (hcopies _ List.mem_cons_self)
    · rw [hplace, hgiven source d htext']

/-- No bone has a blank id or name, and the blank ids and names of cubes are those that mirrors are
given. -/
theorem ofSpec_blanks (h : ofSpec limits spec = .ok m) :
    (∀ b ∈ m.bones.toList, Text.isBlank b.id = false ∧ Text.isBlank b.name = false) ∧
    ∀ text, Text.isBlank text = true →
      ((∃ c ∈ m.cubes.toList, c.id = text) ↔
        ∃ d, .mirror d ∈ spec.instances ∧ d.newId = some text) ∧
      ((∃ c ∈ m.cubes.toList, c.name = text) ↔
        ∃ d, .mirror d ∈ spec.instances ∧ d.newName = some text) := by
  obtain ⟨s, rfl⟩ := exists_stages h
  refine ⟨fun b hb => s.bone_not_blank hb, fun text htext => ⟨?_, ?_⟩⟩
  · refine s.blank_iff (fun _ _ => rfl) htext (fun c hc => (s.cube_not_blank hc).1) ?_ ?_
    · intro source d hgiven
      exact congrArg (·.getD (source.id ++ "_mirror")) hgiven
    · exact fun source directive copy hcopy => (mirror_of_blank hcopy).1
  · refine s.blank_iff (fun _ _ => rfl) htext (fun c hc => (s.cube_not_blank hc).2) ?_ ?_
    · intro source d hgiven
      exact congrArg (·.getD (source.name ++ "_mirror")) hgiven
    · exact fun source directive copy hcopy => (mirror_of_blank hcopy).2

def blankTwin : Spec Float where
  cubes := [{ id := some "box", lower := some ⟨0, 0, 0⟩, upper := some ⟨2, 2, 2⟩ }]
  instances :=
    [.mirror
      { source := "box", axis := .x, offset := 0, newId := some " ", newName := some "" }]

theorem ofSpec_blanks_twin : ∃ m, ofSpec .standard blankTwin = .ok m ∧
    (∀ b ∈ m.bones.toList, Text.isBlank b.id = false ∧ Text.isBlank b.name = false) ∧
    Text.isBlank " " = true ∧ (∃ c ∈ m.cubes.toList, c.id = " ") ∧
    Text.isBlank "" = true ∧ (∃ c ∈ m.cubes.toList, c.name = "") ∧
    Text.isBlank "\t" = true ∧ ¬ ∃ c ∈ m.cubes.toList, c.id = "\t" := by
  obtain ⟨m, hm⟩ : ∃ m, ofSpec .standard blankTwin = .ok m :=
    Attempts.exists_ok (by decide +kernel)
  obtain ⟨hbones, hcubes⟩ := ofSpec_blanks hm
  have hid : Text.isBlank " " = true := by decide
  have hname : Text.isBlank "" = true := by decide
  have hother : Text.isBlank "\t" = true := by decide
  refine ⟨m, hm, hbones, hid, ?_, hname, ?_, hother, fun h => ?_⟩
  · exact (hcubes " " hid).1.mpr ⟨_, List.mem_cons_self, rfl⟩
  · exact (hcubes "" hname).2.mpr ⟨_, List.mem_cons_self, rfl⟩
  · obtain ⟨d, hd, hgiven⟩ := (hcubes "\t" hother).1.mp h
    cases List.mem_singleton.mp hd
    exact absurd hgiven (by decide)

/-- The copy is blank in both its id and its name. -/
theorem blank_twin : ∃ m, ofSpec .standard blankTwin = .ok m ∧
    ∃ c ∈ m.cubes.toList, Text.isBlank c.id = true ∧ Text.isBlank c.name = true := by
  obtain ⟨m, hm⟩ : ∃ m, ofSpec .standard blankTwin = .ok m :=
    Attempts.exists_ok (by decide +kernel)
  refine ⟨m, hm, ?_⟩
  apply Attempts.holds_of_all (p := fun m : Model Float =>
    ∃ c ∈ m.cubes.toList, Text.isBlank c.id = true ∧ Text.isBlank c.name = true) hm
  decide +kernel

end Model

end Armature
