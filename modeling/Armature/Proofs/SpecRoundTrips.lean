import Armature.Proofs.SpecDocuments
import Armature.Proofs.PrintedTexts

/-! Equality of specs compares floating-point numbers by value, so that one which is not a number differs
from itself. What can be read back equals itself. -/

namespace Armature

namespace Json

section Numbers

mutual

lemma numbers_proper : (v : Json) → v.isProper = true → ∀ n ∈ v.numbers, n.isProper = true
  | null, _, _, hn => by cases hn
  | bool _, _, _, hn => by cases hn
  | text _, _, _, hn => by cases hn
  | number _, h, _, hn => List.mem_singleton.mp hn ▸ h
  | array items, h, n, hn => itemNumbers_proper items h n hn
  | object members, h, n, hn => memberNumbers_proper members (proper_object.mp h).2 n hn

lemma itemNumbers_proper : (items : List Json) → areProper items = true →
    ∀ n ∈ itemNumbers items, n.isProper = true
  | [], _, _, hn => by cases hn
  | item :: rest, h, n, hn => by
    rw [areProper, Bool.and_eq_true] at h
    rcases List.mem_append.mp hn with hn | hn
    · exact numbers_proper item h.1 n hn
    · exact itemNumbers_proper rest h.2 n hn

lemma memberNumbers_proper : (members : List (String × Json)) → membersProper members = true →
    ∀ n ∈ memberNumbers members, n.isProper = true
  | [], _, _, hn => by cases hn
  | (_, value) :: rest, h, n, hn => by
    rw [membersProper, Bool.and_eq_true] at h
    rcases List.mem_append.mp hn with hn | hn
    · exact numbers_proper value h.1 n hn
    · exact memberNumbers_proper rest h.2 n hn

end

lemma legible_of_floats {v : Json} (hv : v.isProper = true)
    (hfloats : ∀ x, Number.float x ∈ v.numbers → (Number.float x).Legible) :
    ∀ n ∈ v.numbers, n.Legible := by
  intro n hn
  cases n with
  | integer n => exact read?_integer (numbers_proper v hv _ hn)
  | float x => exact hfloats x hn

end Numbers

end Json

open Json

section Containers

variable {α : Type} [BEq α]

lemma beq_self_of_option {o : Option α} (h : ∀ a ∈ o, (a == a) = true) : (o == o) = true := by
  cases o with
  | none => rfl
  | some a => exact h a rfl

lemma beq_self_of_list {l : List α} (h : ∀ a ∈ l, (a == a) = true) : (l == l) = true := by
  induction l with
  | nil => rfl
  | cons a l ih =>
    obtain ⟨ha, hl⟩ := List.forall_mem_cons.mp h
    exact Bool.and_eq_true_iff.mpr ⟨ha, ih hl⟩

end Containers

lemma Number.same_self {n : Number} (h : n.isProper = true) : n.same n = true := by
  cases n with
  | integer n => exact beq_self_eq_true n
  | float x => exact Decimal.beq_self h

namespace Json

mutual

lemma same_self : (v : Json) → v.isProper = true → v.same v = true
  | null, _ => rfl
  | bool b, _ => beq_self_eq_true b
  | number n, h => n.same_self h
  | text s, _ => beq_self_eq_true s
  | array items, h => sameItems_self items h
  | object members, h => sameMembers_self members (proper_object.mp h).2

lemma sameItems_self : (items : List Json) → areProper items = true → sameItems items items = true
  | [], _ => rfl
  | item :: rest, h => by
    rw [areProper, Bool.and_eq_true] at h
    exact Bool.and_eq_true_iff.mpr ⟨same_self item h.1, sameItems_self rest h.2⟩

lemma sameMembers_self : (members : List (String × Json)) → membersProper members = true →
    sameMembers members members = true
  | [], _ => rfl
  | (key, value) :: rest, h => by
    rw [membersProper, Bool.and_eq_true] at h
    rw [sameMembers, same_self value h.1, sameMembers_self rest h.2, beq_self_eq_true]
    rfl

end

end Json

lemma Vec3.beq_self {a : Vec3 Float} (h : a.isFinite = true) : (a == a) = true := by
  obtain ⟨hx, hy, hz⟩ : a.x.isFinite = true ∧ a.y.isFinite = true ∧ a.z.isFinite = true := by
    simpa [isFinite, toList, Scalar.isFinite] using h
  change instBEqVec3.beq a a = true
  simp only [instBEqVec3.beq, Decimal.beq_self hx, Decimal.beq_self hy, Decimal.beq_self hz,
    Bool.and_true]

lemma Vec2.beq_self {a : Vec2 Float} (h : a.isFinite = true) : (a == a) = true := by
  obtain ⟨hu, hv⟩ : a.u.isFinite = true ∧ a.v.isFinite = true := by
    simpa [isFinite, toList, Scalar.isFinite] using h
  change instBEqVec2.beq a a = true
  simp only [instBEqVec2.beq, Decimal.beq_self hu, Decimal.beq_self hv, Bool.and_true]

lemma Bounds.beq_self {b : Bounds Float} (h : b.isFinite = true) : (b == b) = true := by
  obtain ⟨hmin, hmax⟩ := Bool.and_eq_true_iff.mp h
  change instBEqBounds.beq b b = true
  simp only [instBEqBounds.beq, Vec3.beq_self hmin, Vec3.beq_self hmax, Bool.and_true]

namespace Spec

section Finite

variable {o : Option Float} {v : Option (Vec3 Float)}

lemma floats_beq_self (h : o.all Float.isFinite = true) : (o == o) = true :=
  beq_self_of_option fun x hx => Decimal.beq_self ((Option.all_eq_true _ _).mp h x hx)

lemma points_beq_self (h : v.all Vec3.isFinite = true) : (v == v) = true :=
  beq_self_of_option fun a ha => Vec3.beq_self ((Option.all_eq_true _ _).mp h a ha)

end Finite

lemma Policy.beq_self {p : Policy Float} (h : p.isFinite = true) : (p == p) = true := by
  obtain ⟨hgrid, hbounds⟩ := Bool.and_eq_true_iff.mp h
  have hbox := beq_self_of_option fun b hb => Bounds.beq_self ((Option.all_eq_true _ _).mp hbounds b hb)
  change instBEqPolicy.beq p p = true
  simp only [instBEqPolicy.beq, floats_beq_self hgrid, hbox, BEq.rfl, Bool.and_true]

lemma Bone.beq_self {b : Bone Float} (h : b.isFinite = true) : (b == b) = true := by
  simp only [isFinite, Bool.and_eq_true, and_assoc] at h
  obtain ⟨hpivot, hrotation, hscale⟩ := h
  change instBEqBone.beq b b = true
  simp only [instBEqBone.beq, points_beq_self hpivot, points_beq_self hrotation, points_beq_self hscale,
    BEq.rfl, Bool.and_true]

lemma Cube.beq_self {c : Cube Float} (h : c.isFinite = true) : (c == c) = true := by
  simp only [isFinite, Bool.and_eq_true, and_assoc] at h
  obtain ⟨hlower, hupper, hcenter, hsize, horigin, hrotation, hinflate, huvOffset⟩ := h
  have hoffset := beq_self_of_option fun a ha =>
    Vec2.beq_self ((Option.all_eq_true _ _).mp huvOffset a ha)
  change instBEqCube.beq c c = true
  simp only [instBEqCube.beq, points_beq_self hlower, points_beq_self hupper, points_beq_self hcenter,
    points_beq_self hsize, points_beq_self horigin, points_beq_self hrotation, floats_beq_self hinflate,
    hoffset, BEq.rfl, Bool.and_true]

lemma Anchor.beq_self {a : Anchor Float} (h : a.isFinite = true) : (a == a) = true := by
  change instBEqAnchor.beq a a = true
  simp only [instBEqAnchor.beq, points_beq_self h, BEq.rfl, Bool.and_true]

lemma Directive.beq_self {d : Directive Float} (h : d.Proper) : (d == d) = true := by
  change instBEqDirective.beq d d = true
  cases d with
  | mirror m =>
    have hoffset : (m.offset == m.offset) = true := Decimal.beq_self h
    change instBEqMirror.beq m m = true
    simp only [instBEqMirror.beq, hoffset, BEq.rfl, Bool.and_true]
  | repetition r =>
    have hdelta := Vec3.beq_self (Bool.and_eq_true_iff.mp h).2
    change instBEqRepetition.beq r r = true
    simp only [instBEqRepetition.beq, hdelta, BEq.rfl, Bool.and_true]
  | radial r =>
    simp only [Directive.Proper, Radial.isProper, Bool.and_eq_true, and_assoc] at h
    obtain ⟨-, hcenter, hradius, hangle⟩ := h
    change instBEqRadial.beq r r = true
    simp only [instBEqRadial.beq, Vec3.beq_self hcenter, floats_beq_self hradius, floats_beq_self hangle,
      BEq.rfl, Bool.and_true]
  | unknown type value =>
    have hvalue : (value == value) = true := value.same_self h.1
    simp only [instBEqDirective.beq, hvalue, BEq.rfl, Bool.and_true]

lemma beq_self {s : Spec Float} (h : s.Proper) : (s == s) = true := by
  obtain ⟨hbones, hcubes, hanchors, hinstances, hpolicy⟩ := h
  change instBEqSpec.beq s s = true
  simp only [instBEqSpec.beq, beq_self_of_list fun b hb => Bone.beq_self (hbones b hb),
    beq_self_of_list fun c hc => Cube.beq_self (hcubes c hc),
    beq_self_of_list fun a ha => Anchor.beq_self (hanchors a ha),
    beq_self_of_list fun d hd => Directive.beq_self (hinstances d hd), Policy.beq_self hpolicy, BEq.rfl,
    Bool.and_true]

lemma text_read {s : Spec Float} (h : s.Proper)
    (htext : Reading.ofText s.toJson.pretty = ⟨.ofJson s.toJson, true⟩) :
    Spec.ofText s.toJson.pretty = .ok s ∧ s.roundTrips = true := by
  have hread : Spec.ofText s.toJson.pretty = .ok s := by
    simp only [Spec.ofText, readText, htext, (restores h).read, bind_ok_left, if_true]
    rfl
  refine ⟨hread, ?_⟩
  unfold roundTrips
  generalize ofText s.toJson.pretty = read at hread
  subst hread
  exact beq_self h

/-- The value that is written is read as the same spec, in whatever order the members of its objects
come; so is its text, as long as the text is read as the value that it was printed from. -/
theorem document_restored {v : Json} {s : Spec Float} (hv : v.isProper = true)
    (h : Spec.ofJson v = .ok s) :
    (∀ w, Reordered s.toJson w → Spec.ofJson w = .ok s) ∧
      (Reading.ofText s.toJson.pretty = ⟨.ofJson s.toJson, true⟩ →
        Spec.ofText s.toJson.pretty = .ok s ∧ s.roundTrips = true) := by
  have hproper : s.Proper := yields hv h
  exact ⟨fun w hw => (restores hproper).in_any_order orderless hw, text_read hproper⟩

/-- A cube in array form with a field set to null, and a directive of unknown type. -/
def wingDocument : Json :=
  .object
    [("cubes", .array
        [.array [.text "wing", .null, .null,
          .array [.number (.integer 2), .number (.float 0.5), .number (.integer (-3))]]]),
      ("instances", .array [.object [("type", .text "sparkle"), ("density", .number (.integer 3))]])]

def wing : Spec Float where
  cubes := [{ id := some "wing", lower := some ⟨2, 0.5, -3⟩ }]
  instances :=
    [.unknown "sparkle" (.object [("density", .number (.integer 3)), ("type", .text "sparkle")])]

theorem document_restored_wing : wingDocument.isProper = true ∧ Spec.ofJson wingDocument = .ok wing ∧
    Spec.ofJson wing.toJson.sorted = .ok wing ∧ Spec.ofText wing.toJson.pretty = .ok wing := by
  have hproper : wingDocument.isProper = true := by decide +kernel
  have hread : Spec.ofJson wingDocument = .ok wing := rfl
  have hwritten : wing.toJson.isProper = true := (restores (yields hproper hread)).proper
  have hnumbers : ∀ n ∈ wing.toJson.numbers, n.Legible := by decide +kernel
  have hheight : wing.toJson.height ≤ Outline.nesting := by decide +kernel
  exact ⟨hproper, hread, (document_restored hproper hread).1 _ (reordered_sorted _ hwritten),
    ((document_restored hproper hread).2 (ofText_pretty hnumbers hheight)).1⟩

/-- A spec is read back from its text if its floating-point numbers are, whatever else it holds. -/
theorem text_restored {v : Json} {s : Spec Float} (hv : v.isProper = true) (h : Spec.ofJson v = .ok s)
    (hfloats : ∀ x, Number.float x ∈ s.toJson.numbers → (Number.float x).Legible)
    (hheight : s.toJson.height ≤ Outline.nesting) :
    Spec.ofText s.toJson.pretty = .ok s ∧ s.roundTrips = true := by
  have hproper : s.Proper := yields hv h
  have hnumbers := legible_of_floats (restores hproper).proper hfloats
  exact text_read hproper (ofText_pretty hnumbers hheight)

end Spec

end Armature
