import Armature.Proofs.DerivedIds

/-! Ids that are slugs of places. The kind is a word of every place, so that its slug is not empty
and no hash stands in for it. A label without words leaves no trace in the id. -/

namespace Armature.Model

open Identity

section Slugs

variable {K : Type} [Scalar K] {limits : Limits} {spec : Spec K}

/-- What the ids come to that a policy of slugs gives. -/
structure SlugIds (limits : Limits) (spec : Spec K) : Prop
    extends KeyedByPlace limits spec Text.words Text.slug where
  derived : ∀ kind id parent label, given? id = none →
    resolve? spec.policy.idPolicy kind id parent label = some (Text.slug (place kind parent label))
  same_iff : ∀ kind id parent label id' parent' label', given? id = none → given? id' = none →
    (resolve? spec.policy.idPolicy kind id parent label =
        resolve? spec.policy.idPolicy kind id' parent' label' ↔
      Text.words (parent.getD "") ++ Text.words label =
        Text.words (parent'.getD "") ++ Text.words label')
  wordless : ∀ kind id parent label, given? id = none →
    (∀ c ∈ (Text.lowercase label).toList, Text.isSlugChar c = false) →
    resolve? spec.policy.idPolicy kind id parent label = some (Text.slug (place kind parent ""))

lemma derive?_stablePath (kind : Kind) (parent : Option String) (label : String) :
    derive? .stablePath (place kind parent label) = some (Text.slug (place kind parent label)) := by
  rw [derive?, slugId_place]

lemma keyedByWords (hpolicy : spec.policy.idPolicy = .stablePath) :
    KeyedByPlace limits spec Text.words Text.slug := by
  refine keyedByPlace ?_ fun _ _ => Text.slug_eq_iff.mpr
  rw [hpolicy]
  exact derive?_stablePath

/-- Two entries of one kind without ids of their own get the same id if their parents and labels
have the same words, and are at fault then. -/
theorem ofSpec_slugIds (limits : Limits) (hpolicy : spec.policy.idPolicy = .stablePath) :
    SlugIds limits spec := by
  refine { keyedByWords hpolicy with derived := ?_, same_iff := ?_, wordless := ?_ }
  · intro kind id parent label hid
    rw [resolve?_of_none hid, hpolicy, derive?_stablePath]
  · intro kind id parent label id' parent' label' hid hid'
    rw [resolve?_of_none hid, resolve?_of_none hid', hpolicy, derive?_stablePath,
      derive?_stablePath, Option.some_inj, Text.slug_eq_iff, words_place, words_place,
      List.cons_inj_right]
  · intro kind id parent label hid hlabel
    rw [resolve?_of_none hid, hpolicy, derive?_stablePath, Option.some_inj, Text.slug_eq_iff,
      words_place, words_place, Text.words_eq_nil_iff.mpr hlabel]
    rfl

end Slugs

def sidesSpec : Spec Float where
  bones := [{ name := some "左" }, { name := some "右" }]

lemma sides_repeat : Repeats (K := Float) .bone (Spec.Bone.resolve sidesSpec.policy)
    sidesSpec.template.modelBones (Spec.Bone.place? sidesSpec.policy) Text.words
    [{ name := some "左" }] { name := some "右" } "bone:root:右" where
  merged := Attempts.exists_ok (by decide +kernel)
  stands := (Attempts.exists_ok (by decide +kernel)).imp fun _ h => ⟨1, h⟩
  placed := by decide +kernel
  repeated := ⟨_, List.mem_cons_self, "bone:root:左", by decide +kernel, by decide +kernel⟩

theorem ofSpec_slugIds_sides : sidesSpec.policy.idPolicy = .stablePath ∧
    SlugIds .standard sidesSpec ∧
    ofSpec .standard sidesSpec = .error (.duplicateId .bone 1 "bone_root") := by
  have hids : SlugIds .standard sidesSpec := ofSpec_slugIds .standard rfl
  have hslug : Text.slug "bone:root:右" = "bone_root" := by decide +kernel
  refine ⟨rfl, hids, ?_⟩
  rw [← hslug]
  exact hids.bones_clash _ _ [] _ rfl sides_repeat rfl

/-- Two names without words: the second is refused for the id of the first, although their places
have different hashes. -/
theorem sides_clash : ∃ left right : String, left ≠ right ∧
    (∀ c ∈ (Text.lowercase left).toList, Text.isSlugChar c = false) ∧
    (∀ c ∈ (Text.lowercase right).toList, Text.isSlugChar c = false) ∧
    hashId (place .bone (some "root") left) ≠ hashId (place .bone (some "root") right) ∧
    resolve? .stablePath .bone none (some "root") left = some "bone_root" ∧
    resolve? .stablePath .bone none (some "root") right = some "bone_root" ∧
    sidesSpec.bones = [{ name := some left }, { name := some right }] ∧
    ofSpec .standard sidesSpec = .error (.duplicateId .bone 1 "bone_root") := by
  have hslug : Text.slug "bone:root:右" = "bone_root" := by decide +kernel
  refine ⟨"左", "右", by decide, Text.words_eq_nil_iff.mp (by decide +kernel),
    Text.words_eq_nil_iff.mp (by decide +kernel), by decide +kernel, by decide +kernel,
    by decide +kernel, rfl, ?_⟩
  rw [← hslug]
  exact (keyedByWords rfl).bones_clash _ _ [] _ rfl sides_repeat rfl

end Armature.Model
