import Armature.Proofs.Slugs
import Armature.Proofs.Stages

/-! Ids that are derived from places. Entries without ids of their own are told apart by what their
places come to: if that is one and the same for two of them, the later one is at fault. -/

namespace Armature

namespace Text

lemma trim_eq_empty_iff {s : String} : trim s = "" ↔ isBlank s = true := by
  constructor
  · intro h
    have hend : (s.toList.dropWhile isBlankChar).reverse.dropWhile isBlankChar = [] := by
      have htoList := congrArg String.toList h
      simpa [trim] using htoList
    have hblank : ∀ c ∈ s.toList.dropWhile isBlankChar, isBlankChar c = true := by
      simpa using hend
    have hstart : s.toList.dropWhile isBlankChar = [] := by
      by_contra hne
      have hkept := List.head_dropWhile_not isBlankChar hne
      rw [hblank _ (List.head_mem hne)] at hkept
      cases hkept
    exact List.all_eq_true.mpr (List.dropWhile_eq_nil_iff.mp hstart)
  · exact Plan.trim_blank

end Text

namespace Identity

/-- The id that a policy derives from a place. -/
def derive? : IdPolicy → String → Option String
  | .explicit, _ => none
  | .stablePath, path => some (slugId path)
  | .hash, path => some (hashId path)

section Derive

variable {policy : IdPolicy} {kind : Kind} {id parent : Option String} {label : String}

lemma resolve?_of_none (h : given? id = none) :
    resolve? policy kind id parent label = derive? policy (place kind parent label) := by
  simp only [resolve?, h]
  cases policy <;> rfl

/-- An id that is not blank is kept, but for the blanks at its ends. -/
lemma eq_trim_of_resolve? {resolved text : String}
    (h : resolve? policy kind id parent label = some resolved) (hid : text ∈ id)
    (hblank : Text.isBlank text = false) : resolved = Text.trim text := by
  have hne : Text.trim text ≠ "" := fun hempty => by
    rw [Text.trim_eq_empty_iff.mp hempty] at hblank
    cases hblank
  have hgiven : given? id = some (Text.trim text) := by
    rw [Option.mem_def.mp hid, given?, Option.map_some, Option.filter_some, if_pos (by simpa using hne)]
  simp only [resolve?, hgiven] at h
  exact (Option.some.inj h).symm

lemma filter_of_given?_none (h : given? id = none) :
    (id.filter fun id => !Text.isBlank id) = none := by
  cases id with
  | none => rfl
  | some s =>
    have hempty : Text.trim s = "" := by simpa [given?] using h
    simp [Text.trim_eq_empty_iff.mp hempty]

lemma words_place : Text.words (place kind parent label) =
    kind.name :: (Text.words (parent.getD "") ++ Text.words label) := by
  have hkind : Text.words kind.name = [kind.name] := by cases kind <;> decide +kernel
  rw [place, Text.words_colon, Text.words_colon, hkind, List.singleton_append, List.cons_append]

/-- A place has the word of its kind, so that its slug is not empty. -/
lemma slugId_place : slugId (place kind parent label) = Text.slug (place kind parent label) := by
  have hslug : Text.slug (place kind parent label) ≠ "" := by
    rw [ne_eq, Text.slug_eq_empty_iff, words_place]
    exact List.cons_ne_nil _ _
  simp [slugId, hslug]

end Derive

end Identity

namespace Spec

/-- The place that the id of an entry is derived from, if it has none of its own. -/
def place? {K : Type} (policy : Policy K) (kind : Kind) (id name parent : Option String) :
    Option String :=
  if Identity.given? id = none then name.map (Identity.place kind (parent <|> policy.parent?))
  else none

variable {K : Type} {policy : Policy K}

def Bone.place? (policy : Policy K) (entry : Bone K) : Option String :=
  Spec.place? policy .bone entry.id entry.name entry.parent

def Cube.place? (policy : Policy K) (entry : Cube K) : Option String :=
  Spec.place? policy .cube entry.id entry.name entry.parent

lemma place?_eq_some {kind : Kind} {id name parent : Option String} {path : String} :
    place? policy kind id name parent = some path ↔ Identity.given? id = none ∧
      ∃ label, name = some label ∧
        Identity.place kind (parent <|> policy.parent?) label = path := by
  simp only [place?, Option.ite_none_right_eq_some, Option.map_eq_some_iff]

/-- Without an id of its own an entry has a name, and the id comes from its place. -/
lemma derived_of_identify {kind : Kind} {index : ℕ} {id name parent : Option String}
    {identity : String × String} (hid : Identity.given? id = none)
    (h : identify (K := K) policy.idPolicy kind index id name (parent <|> policy.parent?) =
      .ok identity) :
    name = some identity.2 ∧ Identity.derive? policy.idPolicy
      (Identity.place kind (parent <|> policy.parent?) identity.2) = some identity.1 := by
  obtain ⟨label, hlabel, hderived, hname⟩ := Model.identify_ok h
  rw [Identity.filter_of_given?_none hid] at hlabel
  have hfilter : (name.filter fun name => !Text.isBlank name) = some label := by simpa using hlabel
  obtain rfl : identity.2 = label := by rw [hname, hfilter]; rfl
  rw [← Identity.resolve?_of_none hid]
  exact ⟨(Option.filter_eq_some_iff.mp hfilter).1, hderived⟩

lemma derive_place {derive : String → String} {kind : Kind} {index : ℕ}
    {id name parent : Option String} {path : String} {identity : String × String}
    (hderive : ∀ kind parent label,
      Identity.derive? policy.idPolicy (Identity.place kind parent label) =
        some (derive (Identity.place kind parent label)))
    (hpath : place? policy kind id name parent = some path)
    (h : identify (K := K) policy.idPolicy kind index id name (parent <|> policy.parent?) =
      .ok identity) :
    derive path = identity.1 := by
  obtain ⟨hid, label, hname, rfl⟩ := place?_eq_some.mp hpath
  obtain ⟨hidentity, hderived⟩ := derived_of_identify hid h
  obtain rfl : identity.2 = label := Option.some.inj (hidentity.symm.trans hname)
  exact Option.some.inj ((hderive _ _ _).symm.trans hderived)

end Spec

namespace Model

section Entries

variable {K α ε β : Type} [Identified α] {kind : Kind} {resolve : ℕ → ε → Except (Fault K) α}
  {start : Roster α} {entries before after : List ε} {entry : ε} {m : Merge α} {path : String}
  {place? : ε → Option String} {key : String → β} {derive : String → String}

/-- The entries `before` merge, and one of them has a place with the key of that of `entry`, which
has no fault of its own. -/
structure Repeats (kind : Kind) (resolve : ℕ → ε → Except (Fault K) α) (start : Roster α)
    (place? : ε → Option String) (key : String → β) (before : List ε) (entry : ε) (path : String) :
    Prop where
  merged : ∃ m, mergeEntries kind resolve start before = .ok m
  stands : ∃ a, StandsFor resolve entry a
  placed : place? entry = some path
  repeated : ∃ other ∈ before, ∃ taken, place? other = some taken ∧ key taken = key path

variable (hindex : ∀ entry a, StandsFor resolve entry a → ∀ index, resolve index entry = .ok a)
  (hderived : ∀ entry a path, StandsFor resolve entry a → place? entry = some path →
    derive path = Identified.id a)
  (hkey : ∀ path path', key path = key path' → derive path = derive path')

include hindex hderived hkey

lemma keys_nodup (h : mergeEntries kind resolve start entries = .ok m) :
    ((entries.filterMap place?).map key).Nodup := by
  obtain ⟨as, hstands, -⟩ := (mergeEntries_ok hindex).mp ⟨m, h, rfl⟩
  refine List.pairwise_map.mpr (List.pairwise_filterMap.mpr ?_)
  refine (pairwise_of_mergeEntries hindex h).imp_of_mem ?_
  intro e e' he he' hne path hpath path' hpath' hsame
  obtain ⟨a, -, ha⟩ := exists_of_mem_left hstands he
  obtain ⟨a', -, ha'⟩ := exists_of_mem_left hstands he'
  refine hne a a' ha ha' ?_
  rw [← hderived e a path ha hpath, ← hderived e' a' path' ha' hpath', hkey path path' hsame]

lemma Repeats.error (h : Repeats kind resolve start place? key before entry path) :
    mergeEntries kind resolve start (before ++ entry :: after) =
      .error (.duplicateId kind before.length (derive path)) := by
  obtain ⟨m, hm⟩ := h.merged
  obtain ⟨a, ha⟩ := h.stands
  obtain ⟨other, hother, taken, htaken, hsame⟩ := h.repeated
  obtain ⟨as, hstands, -⟩ := (mergeEntries_ok hindex).mp ⟨m, hm, rfl⟩
  obtain ⟨b, -, hb⟩ := exists_of_mem_left hstands hother
  have hid : Identified.id b = Identified.id a := by
    rw [← hderived other b taken hb htaken, ← hderived entry a path ha h.placed,
      hkey taken path hsame]
  rw [mergeEntries_repeated hindex hm hother hb ha hid, hderived entry a path ha h.placed]

end Entries

variable {K β : Type} [Scalar K] {limits : Limits} {spec : Spec K} {key : String → β}
  {derive : String → String}

/-- The entries without ids of their own are told apart by the keys of their places. -/
structure KeyedByPlace (limits : Limits) (spec : Spec K) (key : String → β)
    (derive : String → String) : Prop where
  bones_distinct : ∀ model, ofSpec limits spec = .ok model →
    ((spec.bones.filterMap (Spec.Bone.place? spec.policy)).map key).Nodup
  cubes_distinct : ∀ model, ofSpec limits spec = .ok model →
    ((spec.cubes.filterMap (Spec.Cube.place? spec.policy)).map key).Nodup
  bones_clash : ∀ before entry after path, spec.bones = before ++ entry :: after →
    Repeats .bone (Spec.Bone.resolve spec.policy) spec.template.modelBones
      (Spec.Bone.place? spec.policy) key before entry path →
    spec.policy.check = .ok () →
    ofSpec limits spec = .error (.duplicateId .bone before.length (derive path))
  cubes_clash : ∀ before entry after path, spec.cubes = before ++ entry :: after →
    Repeats .cube (Spec.Cube.resolve spec.policy) spec.template.modelCubes
      (Spec.Cube.place? spec.policy) key before entry path →
    spec.policy.check = .ok () →
    (∃ m, mergeEntries .bone (Spec.Bone.resolve spec.policy) spec.template.modelBones spec.bones =
      .ok m) →
    ofSpec limits spec = .error (.duplicateId .cube before.length (derive path))

lemma keyedByPlace (hderive : ∀ kind parent label,
      Identity.derive? spec.policy.idPolicy (Identity.place kind parent label) =
        some (derive (Identity.place kind parent label)))
    (hkey : ∀ path path', key path = key path' → derive path = derive path') :
    KeyedByPlace limits spec key derive := by
  have hbone : ∀ entry b path, StandsFor (Spec.Bone.resolve spec.policy) entry b →
      entry.place? spec.policy = some path → derive path = b.id :=
    fun entry b path hb hpath => Spec.derive_place hderive hpath (resolveBone_ok hb).1
  have hcube : ∀ entry c path, StandsFor (Spec.Cube.resolve spec.policy) entry c →
      entry.place? spec.policy = some path → derive path = c.id :=
    fun entry c path hc hpath => Spec.derive_place hderive hpath (resolveCube_ok hc).1
  constructor
  · intro model hmodel
    obtain ⟨s, -⟩ := exists_stages hmodel
    exact keys_nodup (fun _ _ => resolveBone_index) hbone hkey s.bones_merged
  · intro model hmodel
    obtain ⟨s, -⟩ := exists_stages hmodel
    exact keys_nodup (fun _ _ => resolveCube_index) hcube hkey s.cubes_merged
  · intro before entry after path hentries hrepeats hcheck
    refine Attempts.then_error.mpr (.inr ⟨hcheck, Attempts.bind_error.mpr (.inl ?_)⟩)
    refine Attempts.bind_error.mpr (.inl ?_)
    rw [hentries]
    exact hrepeats.error (fun _ _ => resolveBone_index) hbone hkey
  · rintro before entry after path hentries hrepeats hcheck ⟨m, hm⟩
    refine Attempts.then_error.mpr (.inr ⟨hcheck, Attempts.bind_error.mpr (.inl ?_)⟩)
    refine Attempts.bind_error.mpr (.inr ⟨m, hm, Attempts.bind_error.mpr (.inl ?_)⟩)
    rw [hentries]
    exact hrepeats.error (fun _ _ => resolveCube_index) hcube hkey

end Model

end Armature
