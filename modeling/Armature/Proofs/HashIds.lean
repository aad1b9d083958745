import Armature.Proofs.DerivedIds

/-! Ids that are hashes of places. A parent and a label are joined by a colon, which may stand in
them as well, so that two pairs may be written alike. -/

namespace Armature

namespace Identity

/-- A parent and a label that are written like another pair: the same ones, or one parent goes on to
a later colon of what the other pair writes as its label. -/
inductive SamePlace : (parent label parent' label' : String) → Prop
  | same (parent label : String) : SamePlace parent label parent label
  | longer (parent between label : String) :
    SamePlace parent (between ++ ":" ++ label) (parent ++ ":" ++ between) label
  | shorter (parent between label : String) :
    SamePlace (parent ++ ":" ++ between) label parent (between ++ ":" ++ label)

lemma SamePlace.symm {parent label parent' label' : String}
    (h : SamePlace parent label parent' label') : SamePlace parent' label' parent label := by
  cases h with
  | same => exact .same _ _
  | longer _ between _ => exact .shorter _ between _
  | shorter _ between _ => exact .longer _ between _

lemma samePlace_of_eq_append {parent label parent' label' : List Char} {rest : List Char}
    (hparent : parent' = parent ++ rest) (hlabel : ':' :: label = rest ++ ':' :: label') :
    SamePlace (String.ofList parent) (String.ofList label) (String.ofList parent')
      (String.ofList label') := by
  -- What the longer parent has more is nothing, or begins with the colon that ends the shorter one.
  cases rest with
  | nil =>
    rw [hparent, List.append_nil, (List.cons.inj hlabel).2]
    exact .same _ _
  | cons colon between =>
    obtain ⟨rfl, rfl⟩ := List.cons.inj hlabel
    have hcolon : (":" : String) = String.ofList [':'] := rfl
    have hlonger := SamePlace.longer (.ofList parent) (.ofList between) (.ofList label')
    rw [hcolon, ← String.ofList_append, ← String.ofList_append, ← String.ofList_append,
      ← String.ofList_append] at hlonger
    simpa [hparent] using hlonger

lemma joined_eq_iff {parent label parent' label' : String} :
    parent ++ ":" ++ label = parent' ++ ":" ++ label' ↔ SamePlace parent label parent' label' := by
  constructor
  · intro h
    have hchars : parent.toList ++ ':' :: label.toList = parent'.toList ++ ':' :: label'.toList := by
      have htoList := congrArg String.toList h
      simpa using htoList
    rcases List.append_eq_append_iff.mp hchars with ⟨rest, hparent, hlabel⟩ | ⟨rest, hparent, hlabel⟩
    · simpa using samePlace_of_eq_append hparent hlabel
    · simpa using (samePlace_of_eq_append hparent hlabel).symm
  · intro h
    cases h with
    | same => rfl
    | longer => simp only [String.append_assoc]
    | shorter => simp only [String.append_assoc]

instance (parent label parent' label' : String) :
    Decidable (SamePlace parent label parent' label') :=
  decidable_of_iff _ joined_eq_iff

lemma place_eq_iff {kind : Kind} {parent parent' : Option String} {label label' : String} :
    place kind parent label = place kind parent' label' ↔
      SamePlace (parent.getD "") label (parent'.getD "") label' := by
  rw [← joined_eq_iff]
  simp only [place, String.append_assoc, String.append_right_inj]

/-- Two places with one hash. -/
def Collision (path path' : String) : Prop := path ≠ path' ∧ hashId path = hashId path'

instance (path path' : String) : Decidable (Collision path path') := instDecidableAnd

lemma hashId_eq_iff {path path' : String} (h : ¬ Collision path path') :
    hashId path = hashId path' ↔ path = path' := by
  constructor
  · intro hhash
    by_contra hne
    exact h ⟨hne, hhash⟩
  · exact congrArg hashId

end Identity

namespace Model

open Identity

section Hashes

variable {K : Type} [Scalar K] {limits : Limits} {spec : Spec K}

/-- What the ids come to that a policy of hashes gives. -/
structure HashIds (limits : Limits) (spec : Spec K) : Prop
    extends KeyedByPlace limits spec id hashId where
  derived : ∀ kind id parent label, given? id = none →
    resolve? spec.policy.idPolicy kind id parent label = some (hashId (place kind parent label))
  same_iff : ∀ kind id parent label id' parent' label', given? id = none → given? id' = none →
    ¬ Collision (place kind parent label) (place kind parent' label') →
    (resolve? spec.policy.idPolicy kind id parent label =
        resolve? spec.policy.idPolicy kind id' parent' label' ↔
      SamePlace (parent.getD "") label (parent'.getD "") label')
  bones_same_iff : ∀ entry b entry' b', given? entry.id = none → given? entry'.id = none →
    StandsFor (Spec.Bone.resolve spec.policy) entry b →
    StandsFor (Spec.Bone.resolve spec.policy) entry' b' →
    ¬ Collision (place .bone (entry.parent <|> spec.policy.parent?) b.name)
      (place .bone (entry'.parent <|> spec.policy.parent?) b'.name) →
    (b.id = b'.id ↔ SamePlace ((entry.parent <|> spec.policy.parent?).getD "") b.name
      ((entry'.parent <|> spec.policy.parent?).getD "") b'.name)
  cubes_same_iff : ∀ entry c entry' c', given? entry.id = none → given? entry'.id = none →
    StandsFor (Spec.Cube.resolve spec.policy) entry c →
    StandsFor (Spec.Cube.resolve spec.policy) entry' c' →
    ¬ Collision (place .cube (entry.parent <|> spec.policy.parent?) c.name)
      (place .cube (entry'.parent <|> spec.policy.parent?) c'.name) →
    (c.id = c'.id ↔ SamePlace ((entry.parent <|> spec.policy.parent?).getD "") c.name
      ((entry'.parent <|> spec.policy.parent?).getD "") c'.name)

lemma derive?_hash_eq_iff {kind : Kind} {parent parent' : Option String}
    {label label' id id' : String} (hid : derive? .hash (place kind parent label) = some id)
    (hid' : derive? .hash (place kind parent' label') = some id')
    (hcollision : ¬ Collision (place kind parent label) (place kind parent' label')) :
    id = id' ↔ SamePlace (parent.getD "") label (parent'.getD "") label' := by
  rw [← Option.some.inj hid, ← Option.some.inj hid', hashId_eq_iff hcollision, place_eq_iff]

lemma keyedByPaths (hpolicy : spec.policy.idPolicy = .hash) :
    KeyedByPlace limits spec id hashId := by
  refine keyedByPlace (fun kind parent label => ?_) fun _ _ => congrArg hashId
  rw [hpolicy, derive?]

/-- Without a collision, entries of one kind without ids of their own get the same id exactly if
their parents and names are written alike, where no parent is written like an empty one. -/
theorem ofSpec_hashIds (limits : Limits) (hpolicy : spec.policy.idPolicy = .hash) :
    HashIds limits spec := by
  refine { keyedByPaths hpolicy with
    derived := ?_, same_iff := ?_, bones_same_iff := ?_, cubes_same_iff := ?_ }
  · intro kind id parent label hid
    rw [resolve?_of_none hid, hpolicy, derive?]
  · intro kind id parent label id' parent' label' hid hid' hcollision
    rw [resolve?_of_none hid, resolve?_of_none hid', hpolicy, derive?, derive?, Option.some_inj]
    exact derive?_hash_eq_iff rfl rfl hcollision
  · intro entry b entry' b' hid hid' hb hb'
    have hderived := (Spec.derived_of_identify hid (resolveBone_ok hb).1).2
    have hderived' := (Spec.derived_of_identify hid' (resolveBone_ok hb').1).2
    rw [hpolicy] at hderived hderived'
    exact derive?_hash_eq_iff hderived hderived'
  · intro entry c entry' c' hid hid' hc hc'
    have hderived := (Spec.derived_of_identify hid (resolveCube_ok hc).1).2
    have hderived' := (Spec.derived_of_identify hid' (resolveCube_ok hc').1).2
    rw [hpolicy] at hderived hderived'
    exact derive?_hash_eq_iff hderived hderived'

end Hashes

/-- The last two bones are written alike, as their parents and names have colons. -/
def colonSpec : Spec Float where
  policy := { idPolicy := .hash, enforceRoot := false }
  bones := [{ id := some "a" }, { id := some "a:b" }, { name := some "b:c", parent := some "a" },
    { name := some "c", parent := some "a:b" }]

lemma colon_repeat : Repeats (K := Float) .bone (Spec.Bone.resolve colonSpec.policy)
    colonSpec.template.modelBones (Spec.Bone.place? colonSpec.policy) id
    [{ id := some "a" }, { id := some "a:b" }, { name := some "b:c", parent := some "a" }]
    { name := some "c", parent := some "a:b" } "bone:a:b:c" where
  merged := Attempts.exists_ok (by decide +kernel)
  stands := (Attempts.exists_ok (by decide +kernel)).imp fun _ h => ⟨3, h⟩
  placed := by decide +kernel
  repeated := ⟨{ name := some "b:c", parent := some "a" }, by simp, "bone:a:b:c",
    by decide +kernel, rfl⟩

theorem ofSpec_hashIds_colons : colonSpec.policy.idPolicy = .hash ∧
    HashIds .standard colonSpec ∧
    ¬ Collision (place .bone (some "root") "arm") (place .bone (some "body") "arm") ∧
    resolve? .hash .bone none (some "root") "arm" ≠ resolve? .hash .bone none (some "body") "arm" ∧
    ofSpec .standard colonSpec = .error (.duplicateId .bone 3 (hashId "bone:a:b:c")) := by
  have hids : HashIds .standard colonSpec := ofSpec_hashIds .standard rfl
  have hcollision :
      ¬ Collision (place .bone (some "root") "arm") (place .bone (some "body") "arm") := by
    decide +kernel
  refine ⟨rfl, hids, hcollision, fun hid => ?_, ?_⟩
  · have hplace := (hids.same_iff .bone none _ _ none _ _ rfl rfl hcollision).mp hid
    exact absurd hplace (by decide)
  · exact hids.bones_clash _ _ [] _ rfl colon_repeat rfl

/-- Different parents and names with one id, and a bone that is refused for it. -/
theorem colon_clash : ∃ parent label parent' label' : String,
    parent ≠ parent' ∧ label ≠ label' ∧
    resolve? .hash .bone none (some parent) label =
      resolve? .hash .bone none (some parent') label' ∧
    resolve? .hash .bone none none label = resolve? .hash .bone none (some "") label ∧
    colonSpec.bones.drop 2 = [{ name := some label, parent := some parent },
      { name := some label', parent := some parent' }] ∧
    ofSpec .standard colonSpec = .error (.duplicateId .bone 3 "07a15180d9b3d4e8") := by
  have hhash : hashId "bone:a:b:c" = "07a15180d9b3d4e8" := by decide +kernel
  refine ⟨"a", "b:c", "a:b", "c", by decide, by decide, ?_, rfl, rfl, ?_⟩
  · exact congrArg (fun path => some (hashId path)) (place_eq_iff.mpr (.longer "a" "b" "c"))
  · rw [← hhash]
    exact (keyedByPaths rfl).bones_clash _ _ [] _ rfl colon_repeat rfl

end Model

end Armature
