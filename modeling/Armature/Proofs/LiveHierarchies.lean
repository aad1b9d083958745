import Armature.Plan.OfModel
import Mathlib.Tactic

/-! The hierarchy of live bones: where the way up from a bone ends, the depth counts it in full. A
way up that ends passes no bone twice, and so the limit of the count is out of its reach. -/

namespace Armature.Plan

variable {K : Type} {live : List (Live.Bone K)} {index parent : ℕ} {way : List ℕ}

def LiveParent (live : List (Live.Bone K)) (child parent : ℕ) : Prop :=
  ∃ bone reference, live[child]? = some bone ∧ bone.parent = some reference ∧
    resolve? live reference = some parent

/-- The live bones on the way up from one of them, without the last one, if the way ends. -/
inductive WayUp (live : List (Live.Bone K)) : ℕ → List ℕ → Prop
  | top {index : ℕ} (h : ∀ parent, ¬ LiveParent live index parent) : WayUp live index []
  | step {index parent : ℕ} {way : List ℕ} (h : LiveParent live index parent)
      (hway : WayUp live parent way) : WayUp live index (index :: way)

lemma LiveParent.unique {other : ℕ} (h : LiveParent live index parent)
    (h' : LiveParent live index other) : parent = other := by
  obtain ⟨bone, reference, hbone, href, hparent⟩ := h
  obtain ⟨bone', reference', hbone', href', hother⟩ := h'
  obtain rfl := Option.some.inj (hbone.symm.trans hbone')
  obtain rfl := Option.some.inj (href.symm.trans href')
  exact Option.some.inj (hparent.symm.trans hother)

lemma LiveParent.lt (h : LiveParent live index parent) : index < live.length := by
  obtain ⟨bone, _, hbone, _⟩ := h
  exact (List.getElem?_eq_some_iff.mp hbone).1

lemma join_links_eq_some : (links live)[index]?.join = some parent ↔ LiveParent live index parent := by
  simp only [links, List.getElem?_toArray, List.getElem?_map, Option.join_eq_some_iff,
    Option.map_eq_some_iff, Option.bind_eq_some_iff, LiveParent]
  constructor
  · rintro ⟨bone, hbone, reference, href, hparent⟩
    exact ⟨bone, reference, hbone, href, hparent⟩
  · rintro ⟨bone, reference, hbone, href, hparent⟩
    exact ⟨bone, hbone, reference, href, hparent⟩

namespace WayUp

lemma of_link_none (h : (links live)[index]?.join = none) : WayUp live index [] :=
  .top fun parent hparent => by
    rw [join_links_eq_some.mpr hparent] at h
    cases h

lemma of_link_some (h : (links live)[index]?.join = some parent) (hway : WayUp live parent way) :
    WayUp live index (index :: way) :=
  .step (join_links_eq_some.mp h) hway

lemma unique {other : List ℕ} (h : WayUp live index way) (h' : WayUp live index other) :
    way = other := by
  induction h generalizing other with
  | top hn =>
    cases h' with
    | top => rfl
    | step hp => exact (hn _ hp).elim
  | step hp _ ih =>
    cases h' with
    | top hn => exact (hn _ hp).elim
    | step hp' hway' =>
      obtain rfl := hp.unique hp'
      rw [ih hway']

lemma of_mem {passed : ℕ} (h : WayUp live index way) (hm : passed ∈ way) :
    ∃ rest, WayUp live passed rest ∧ rest.length ≤ way.length := by
  induction h with
  | top => cases hm
  | @step index parent way hp hway ih =>
    rcases List.mem_cons.mp hm with rfl | hm
    · exact ⟨_, .step hp hway, le_rfl⟩
    · obtain ⟨rest, hrest, hlen⟩ := ih hm
      exact ⟨rest, hrest, hlen.trans (Nat.le_succ _)⟩

lemma nodup (h : WayUp live index way) : way.Nodup := by
  induction h with
  | top => exact List.nodup_nil
  | @step index parent way hp hway ih =>
    refine List.nodup_cons.mpr ⟨fun hm => ?_, ih⟩
    -- met again further up, the bone would have a shorter way up than its own
    obtain ⟨rest, hrest, hlen⟩ := hway.of_mem hm
    have heq := hrest.unique (.step hp hway)
    rw [heq, List.length_cons] at hlen
    omega

lemma subset_range (h : WayUp live index way) : way ⊆ List.range live.length := by
  induction h with
  | top => exact List.nil_subset _
  | step hp _ ih => exact List.cons_subset.mpr ⟨List.mem_range.mpr hp.lt, ih⟩

lemma length_le (h : WayUp live index way) : way.length ≤ live.length := by
  have := (h.nodup.subperm h.subset_range).length_le
  rwa [List.length_range] at this

lemma heightUpTo_eq {limit : ℕ} (h : WayUp live index way) (hlimit : way.length ≤ limit) :
    heightUpTo (links live) limit (links live)[index]?.join = way.length := by
  induction h generalizing limit with
  | @top index hn =>
    have hnone : (links live)[index]?.join = none :=
      Option.eq_none_iff_forall_ne_some.mpr fun parent hp => hn parent (join_links_eq_some.mp hp)
    rw [hnone]
    cases limit <;> rfl
  | @step index parent way hp _ ih =>
    rw [List.length_cons] at hlimit ⊢
    obtain ⟨limit, rfl⟩ : ∃ n, limit = n + 1 := ⟨limit - 1, by omega⟩
    rw [join_links_eq_some.mpr hp, heightUpTo, ih (by omega)]

lemma depth_eq (h : WayUp live index way) : depth (links live) index = way.length := by
  refine h.heightUpTo_eq (h.length_le.trans ?_)
  simp [links]

lemma depth_parent (h : WayUp live index way) (hp : LiveParent live index parent) :
    depth (links live) index = depth (links live) parent + 1 := by
  cases h with
  | top hn => exact (hn _ hp).elim
  | step hp' hway =>
    obtain rfl := hp.unique hp'
    rw [hway.depth_eq, (WayUp.step hp hway).depth_eq, List.length_cons]

lemma depth_parent_lt (h : WayUp live index way) (hp : LiveParent live index parent) :
    depth (links live) parent < depth (links live) index := by
  rw [h.depth_parent hp]
  exact Nat.lt_succ_self _

end WayUp

section References

variable {reference : String}

/-- The last bone with the reference as its id or, if there is none, the first one with it as its
name. -/
inductive Denotes (live : List (Live.Bone K)) (reference : String) (index : ℕ) : Prop
  | byId {bone : Live.Bone K} (hbone : live[index]? = some bone) (hid : bone.id = some reference)
      (hlast : ∀ later other, index < later → live[later]? = some other → other.id ≠ some reference)
  | byName {bone : Live.Bone K} (hbone : live[index]? = some bone) (hname : bone.name = reference)
      (hfirst : ∀ earlier other, earlier < index → live[earlier]? = some other →
        other.name ≠ reference)
      (hnone : ∀ other ∈ live, other.id ≠ some reference)

lemma findIdx?_first {α : Type} {l : List α} {p : α → Bool} {i : ℕ} :
    l.findIdx? p = some i ↔ ∃ a, l[i]? = some a ∧ p a = true ∧
      ∀ j b, j < i → l[j]? = some b → ¬ p b = true := by
  rw [List.findIdx?_eq_some_iff_getElem]
  constructor
  · rintro ⟨hi, hp, hfirst⟩
    refine ⟨l[i], List.getElem?_eq_getElem hi, hp, fun j b hj hb => ?_⟩
    obtain ⟨hjl, rfl⟩ := List.getElem?_eq_some_iff.mp hb
    exact hfirst j hj
  · rintro ⟨a, ha, hp, hfirst⟩
    obtain ⟨hi, rfl⟩ := List.getElem?_eq_some_iff.mp ha
    exact ⟨hi, hp, fun j hj => hfirst j _ hj (List.getElem?_eq_getElem (hj.trans hi))⟩

lemma findIdx?_last {α : Type} {l : List α} {p : α → Bool} {i : ℕ} :
    (l.reverse.findIdx? p).map (fun index => l.length - 1 - index) = some i ↔
      ∃ a, l[i]? = some a ∧ p a = true ∧ ∀ j b, i < j → l[j]? = some b → ¬ p b = true := by
  have hback : ∀ j < l.length, l.reverse[l.length - 1 - j]? = l[j]? := by
    intro j hj
    rw [List.getElem?_reverse (by omega)]
    congr 1
    omega
  rw [Option.map_eq_some_iff]
  constructor
  · rintro ⟨k, hk, rfl⟩
    obtain ⟨a, ha, hp, hfirst⟩ := findIdx?_first.mp hk
    have hkl : k < l.length := by simpa using (List.getElem?_eq_some_iff.mp ha).1
    rw [List.getElem?_reverse hkl] at ha
    refine ⟨a, ha, hp, fun j b hj hb => ?_⟩
    have hjl := (List.getElem?_eq_some_iff.mp hb).1
    exact hfirst (l.length - 1 - j) b (by omega) ((hback j hjl).trans hb)
  · rintro ⟨a, ha, hp, hlast⟩
    have hi := (List.getElem?_eq_some_iff.mp ha).1
    refine ⟨l.length - 1 - i, findIdx?_first.mpr ⟨a, (hback i hi).trans ha, hp, ?_⟩, by omega⟩
    intro j b hj hb
    rw [List.getElem?_reverse (by omega)] at hb
    exact hlast _ b (by omega) hb

lemma resolve?_iff : resolve? live reference = some index ↔ Denotes live reference index := by
  rw [resolve?, Option.orElse_eq_some, findIdx?_last, findIdx?_first, Option.map_eq_none_iff,
    List.findIdx?_eq_none_iff]
  simp only [beq_iff_eq, List.mem_reverse, beq_eq_false_iff_ne]
  constructor
  · rintro (⟨bone, hbone, hid, hlast⟩ | ⟨hnone, bone, hbone, hname, hfirst⟩)
    · exact .byId hbone hid hlast
    · exact .byName hbone hname hfirst hnone
  · rintro (⟨hbone, hid, hlast⟩ | ⟨hbone, hname, hfirst, hnone⟩)
    · exact .inl ⟨_, hbone, hid, hlast⟩
    · exact .inr ⟨hnone, _, hbone, hname, hfirst⟩

lemma resolve?_spec (h : resolve? live reference = some index) :
    ∃ bone, live[index]? = some bone ∧ (bone.id = some reference ∨
      bone.name = reference ∧ ∀ other ∈ live, other.id ≠ some reference) := by
  cases resolve?_iff.mp h with
  | byId hbone hid _ => exact ⟨_, hbone, .inl hid⟩
  | byName hbone hname _ hnone => exact ⟨_, hbone, .inr ⟨hname, hnone⟩⟩

lemma LiveParent.parent_lt (h : LiveParent live index parent) : parent < live.length := by
  obtain ⟨_, _, _, _, hparent⟩ := h
  obtain ⟨bone, hbone, -⟩ := resolve?_spec hparent
  exact (List.getElem?_eq_some_iff.mp hbone).1

lemma rel_of_lt {α : Type} {R : α → α → Prop} {l : List α} {i j : ℕ} {a b : α} (h : l.Pairwise R)
    (hij : i < j) (ha : l[i]? = some a) (hb : l[j]? = some b) : R a b := by
  obtain ⟨hi, rfl⟩ := List.getElem?_eq_some_iff.mp ha
  obtain ⟨hj, rfl⟩ := List.getElem?_eq_some_iff.mp hb
  exact List.pairwise_iff_getElem.mp h i j hi hj hij

/-- A reference means the bone with it as its id, and the bone with it as its name only if there is no
such id. -/
lemma resolve?_eq_some_iff {bone : Live.Bone K}
    (hids : (live.filterMap Live.Bone.id).Nodup) (hnames : (live.map Live.Bone.name).Nodup)
    (hbone : live[index]? = some bone) :
    resolve? live reference = some index ↔ bone.id = some reference ∨
      bone.name = reference ∧ ∀ other ∈ live, other.id ≠ some reference := by
  constructor
  · intro h
    obtain ⟨found, hfound, hanswers⟩ := resolve?_spec h
    obtain rfl := Option.some.inj (hbone.symm.trans hfound)
    exact hanswers
  rw [resolve?_iff]
  rintro (hid | ⟨hname, hnone⟩)
  · refine .byId hbone hid fun later other hlt hother hother' => ?_
    exact rel_of_lt (List.pairwise_filterMap.mp hids) hlt hbone hother _ hid _ hother' rfl
  · refine .byName hbone hname (fun earlier other hlt hother hother' => ?_) hnone
    exact rel_of_lt (List.pairwise_map.mp hnames) hlt hother hbone (hother'.trans hname.symm)

end References

end Armature.Plan
