import Armature.Plan.Match
import Armature.Proofs.Rosters

/-! Matchings: every desired entity is paired once, what is claimed together with what stays free is
what was there, and a live model that was made from the desired one is claimed entity by entity. -/

namespace Armature.Plan

variable {α β : Type}

def slotsFrom (first : ℕ) (live : List β) : List (Slot β) :=
  (live.zipIdx first).map fun (entity, index) => ⟨index, entity⟩

lemma slots_eq (live : List β) : slots live = slotsFrom 0 live := rfl

lemma slotsFrom_cons (first : ℕ) (b : β) (live : List β) :
    slotsFrom first (b :: live) = ⟨first, b⟩ :: slotsFrom (first + 1) live := rfl

lemma slotsFrom_map_index (first : ℕ) (live : List β) :
    (slotsFrom first live).map Slot.index = List.range' first live.length := by
  induction live generalizing first with
  | nil => rfl
  | cons b live ih => rw [slotsFrom_cons, List.map_cons, ih, List.length_cons, List.range'_succ]

lemma le_index_of_mem_slotsFrom {first : ℕ} {live : List β} {slot : Slot β}
    (h : slot ∈ slotsFrom first live) : first ≤ slot.index := by
  have hm := List.mem_map_of_mem (f := Slot.index) h
  rw [slotsFrom_map_index] at hm
  exact (List.mem_range'_1.mp hm).1

lemma mem_slots {live : List β} {slot : Slot β} :
    slot ∈ slots live ↔ live[slot.index]? = some slot.entity := by
  simp only [slots, List.mem_map, Prod.exists, List.mk_mem_zipIdx_iff_getElem?]
  constructor
  · rintro ⟨b, index, h, rfl⟩
    exact h
  · intro h
    exact ⟨slot.entity, slot.index, h, rfl⟩

lemma entity_mem {live : List β} {slot : Slot β} (h : slot ∈ slots live) : slot.entity ∈ live :=
  List.mem_of_getElem? (mem_slots.mp h)

lemma exists_slot {live : List β} {b : β} (h : b ∈ live) :
    ∃ slot ∈ slots live, slot.entity = b := by
  obtain ⟨index, hi⟩ := List.mem_iff_getElem?.mp h
  exact ⟨⟨index, b⟩, mem_slots.mpr hi, rfl⟩

lemma slots_map_entity (live : List β) : (slots live).map Slot.entity = live := by
  rw [slots, List.map_map]
  exact List.zipIdx_map_fst 0 live

lemma filterMap_slots {γ : Type} (key : β → Option γ) (live : List β) :
    ((slots live).filterMap fun slot => key slot.entity) = live.filterMap key := by
  conv_rhs => rw [← slots_map_entity live, List.filterMap_map]
  rfl

lemma pairwise_slots {R : β → β → Prop} {live : List β} (h : live.Pairwise R) :
    (slots live).Pairwise fun s t => R s.entity t.entity := by
  rw [← slots_map_entity live] at h
  exact List.pairwise_map.mp h

lemma slots_ascending (live : List β) : (slots live).Pairwise (·.index < ·.index) := by
  apply List.Pairwise.of_map Slot.index (S := (· < ·)) (fun _ _ h => h)
  rw [slots_eq, slotsFrom_map_index]
  exact List.pairwise_lt_range'

def Distinct (free : List (Slot β)) : Prop := (free.map Slot.index).Nodup

lemma slots_distinct (live : List β) : Distinct (slots live) := by
  rw [Distinct, slots_eq, slotsFrom_map_index]
  exact List.nodup_range'

lemma Distinct.filter {free : List (Slot β)} (h : Distinct free) (p : Slot β → Bool) :
    Distinct (free.filter p) :=
  h.sublist (List.filter_sublist.map Slot.index)

lemma Distinct.cons_filter_perm {free : List (Slot β)} {slot : Slot β} (h : Distinct free)
    (hm : slot ∈ free) : (slot :: free.filter (·.index ≠ slot.index)).Perm free := by
  induction free with
  | nil => cases hm
  | cons s free ih =>
    obtain ⟨hs, hfree⟩ := List.nodup_cons.mp h
    rcases List.mem_cons.mp hm with rfl | hm
    · have hall : ∀ t ∈ free, decide (t.index ≠ slot.index) = true := fun t ht =>
        decide_eq_true fun he => hs (he ▸ List.mem_map_of_mem ht)
      rw [List.filter_cons_of_neg (by simp), List.filter_eq_self.mpr hall]
    · have hne : s.index ≠ slot.index := fun he => hs (he ▸ List.mem_map_of_mem hm)
      rw [List.filter_cons_of_pos (by simpa using hne)]
      exact (List.Perm.swap _ _ _).trans ((ih hfree hm).cons s)

variable [Desired α] [Named β]

/-- A live entity that answers to a desired one, by its id or by its name. -/
def Answers (b : β) (a : α) : Prop :=
  Named.id? b = some (Identified.id a) ∨ Named.name b = Desired.name a

lemma claim?_spec {a : α} {free : List (Slot β)} {slot : Slot β} (h : claim? a free = some slot) :
    slot ∈ free ∧ Answers slot.entity a := by
  unfold claim? at h
  cases hid : free.find? fun slot => Named.id? slot.entity == some (Identified.id a) with
  | some s =>
    rw [hid] at h
    obtain rfl : s = slot := Option.some.inj h
    exact ⟨List.mem_of_find?_eq_some hid, .inl (by simpa using List.find?_some hid)⟩
  | none =>
    rw [hid] at h
    have hname : (free.find? fun slot => Named.name slot.entity == Desired.name a) = some slot := h
    exact ⟨List.mem_of_find?_eq_some hname, .inr (by simpa using List.find?_some hname)⟩

def Matching.claimed (m : Matching α β) : List (Slot β) := m.pairs.filterMap Prod.snd

lemma matchUp_pairs_fst (free : List (Slot β)) (l : List α) :
    (matchUp free l).pairs.map Prod.fst = l := by
  induction l generalizing free with
  | nil => rfl
  | cons a l ih => cases h : claim? a free <;> simp only [matchUp, h, List.map_cons, ih]

lemma pairs_fst_nodup {free : List (Slot β)} {l : List α} (h : (l.map Identified.id).Nodup) :
    ((matchUp free l).pairs.map Prod.fst).Nodup :=
  (matchUp_pairs_fst free l).symm ▸ h.of_map _

lemma mem_of_pair {free : List (Slot β)} {l : List α} {pair : α × Option (Slot β)}
    (h : pair ∈ (matchUp free l).pairs) : pair.1 ∈ l :=
  matchUp_pairs_fst free l ▸ List.mem_map_of_mem h

lemma exists_pair (free : List (Slot β)) {l : List α} {a : α} (h : a ∈ l) :
    ∃ claim, (a, claim) ∈ (matchUp free l).pairs := by
  rw [← matchUp_pairs_fst free l] at h
  obtain ⟨pair, hp, rfl⟩ := List.mem_map.mp h
  exact ⟨pair.2, hp⟩

lemma matchUp_answers {free : List (Slot β)} {l : List α} {a : α} {slot : Slot β}
    (h : (a, some slot) ∈ (matchUp free l).pairs) : Answers slot.entity a := by
  induction l generalizing free with
  | nil => cases h
  | cons b l ih =>
    cases hc : claim? b free with
    | none =>
      simp only [matchUp, hc, List.mem_cons, Prod.mk.injEq, reduceCtorEq, and_false, false_or] at h
      exact ih h
    | some s =>
      simp only [matchUp, hc, List.mem_cons, Prod.mk.injEq, Option.some.injEq] at h
      rcases h with ⟨rfl, rfl⟩ | h
      · exact (claim?_spec hc).2
      · exact ih h

lemma matchUp_free_sublist (free : List (Slot β)) (l : List α) : (matchUp free l).free.Sublist free := by
  induction l generalizing free with
  | nil => exact .refl _
  | cons a l ih =>
    cases hc : claim? a free with
    | none => simpa only [matchUp, hc] using ih free
    | some slot => simpa only [matchUp, hc] using (ih _).trans List.filter_sublist

lemma orphans_sublist (free : List (Slot β)) (l : List α) : ((matchUp free l).orphans l).Sublist free :=
  List.filter_sublist.trans (matchUp_free_sublist free l)

lemma matchUp_perm {free : List (Slot β)} (h : Distinct free) (l : List α) :
    ((matchUp free l).claimed ++ (matchUp free l).free).Perm free := by
  induction l generalizing free with
  | nil => exact .refl _
  | cons a l ih =>
    cases hc : claim? a free with
    | none => simpa only [matchUp, hc, Matching.claimed, List.filterMap_cons_none] using ih h
    | some slot =>
      have hm := (claim?_spec hc).1
      have hrest := ih (h.filter (·.index ≠ slot.index))
      simp only [matchUp, hc, Matching.claimed]
      exact (hrest.cons slot).trans (h.cons_filter_perm hm)

lemma matchUp_distinct {free : List (Slot β)} (h : Distinct free) (l : List α) :
    Distinct ((matchUp free l).claimed ++ (matchUp free l).free) :=
  ((matchUp_perm h l).map Slot.index).nodup_iff.mpr h

section Claims

variable {free : List (Slot β)} {l : List α} {pair other : α × Option (Slot β)} {s t : Slot β}

lemma mem_claimed (hp : pair ∈ (matchUp free l).pairs) (hs : pair.2 = some s) :
    s ∈ (matchUp free l).claimed :=
  List.mem_filterMap.mpr ⟨pair, hp, hs⟩

lemma mem_free_of_claim (h : Distinct free) (hp : pair ∈ (matchUp free l).pairs)
    (hs : pair.2 = some s) : s ∈ free :=
  (matchUp_perm h l).subset (List.mem_append_left _ (mem_claimed hp hs))

lemma claim_unique (h : Distinct free) (hp : pair ∈ (matchUp free l).pairs)
    (ho : other ∈ (matchUp free l).pairs) (hs : pair.2 = some s) (ht : other.2 = some t)
    (he : s.index = t.index) : pair = other := by
  have hclaimed : ((matchUp free l).claimed.map Slot.index).Nodup :=
    (matchUp_distinct h l).sublist ((List.sublist_append_left _ _).map _)
  rw [Matching.claimed, List.map_filterMap] at hclaimed
  refine eq_of_filterMap_nodup (k := s.index) hclaimed hp ho ?_ ?_
  · rw [hs, Option.map_some]
  · rw [ht, Option.map_some, he]

lemma claim_ne_free (h : Distinct free) (hp : pair ∈ (matchUp free l).pairs)
    (hs : pair.2 = some s) (ht : t ∈ (matchUp free l).free) : s.index ≠ t.index := by
  have hd := matchUp_distinct h l
  rw [Distinct, List.map_append, List.nodup_append] at hd
  exact hd.2.2 _ (List.mem_map_of_mem (mem_claimed hp hs)) _ (List.mem_map_of_mem ht)

lemma mem_free_iff (h : Distinct free) :
    s ∈ (matchUp free l).free ↔ s ∈ free ∧ ∀ a, (a, some s) ∉ (matchUp free l).pairs := by
  constructor
  · intro hs
    exact ⟨(matchUp_free_sublist free l).subset hs, fun a ha => claim_ne_free h ha rfl hs rfl⟩
  · rintro ⟨hs, hnone⟩
    rcases List.mem_append.mp ((matchUp_perm h l).mem_iff.mpr hs) with hm | hm
    · obtain ⟨⟨a, claim⟩, hp, rfl⟩ := List.mem_filterMap.mp hm
      exact (hnone a hp).elim
    · exact hm

/-- A live entity that nothing desired would be looked for by: its id is not desired, or its name if
it has no id. -/
structure Undesired (l : List α) (b : β) : Prop where
  id : ∀ id, Named.id? b = some id → ∀ a ∈ l, Identified.id a ≠ id
  name : Named.id? b = none → ∀ a ∈ l, Desired.name a ≠ Named.name b

lemma isOrphan_iff {b : β} : isOrphan l b = true ↔ Undesired l b := by
  rw [isOrphan]
  split
  next id hid =>
    simp only [Bool.not_eq_true', List.any_eq_false, beq_iff_eq]
    constructor
    · intro h
      refine ⟨fun other hother a ha => ?_, fun hnone => ?_⟩
      · obtain rfl := Option.some.inj (hid.symm.trans hother)
        exact h a ha
      · cases hid.symm.trans hnone
    · exact fun h => h.id id hid
  next hid =>
    simp only [Bool.not_eq_true', List.any_eq_false, beq_iff_eq]
    constructor
    · intro h
      refine ⟨fun other hother => ?_, fun _ => h⟩
      cases hid.symm.trans hother
    · exact fun h => h.name hid

lemma mem_orphans_iff (h : Distinct free) : s ∈ (matchUp free l).orphans l ↔
    s ∈ free ∧ (∀ a, (a, some s) ∉ (matchUp free l).pairs) ∧ Undesired l s.entity := by
  rw [Matching.orphans, List.mem_filter, mem_free_iff h, isOrphan_iff, and_assoc]

end Claims

lemma matchUp_slotsFrom_map (make : α → β) (hid : ∀ a, Named.id? (make a) = some (Identified.id a))
    (first : ℕ) (l : List α) :
    (matchUp (slotsFrom first (l.map make)) l).pairs =
        l.zip ((slotsFrom first (l.map make)).map some) ∧
      (matchUp (slotsFrom first (l.map make)) l).free = [] := by
  induction l generalizing first with
  | nil => exact ⟨rfl, rfl⟩
  | cons a l ih =>
    rw [List.map_cons, slotsFrom_cons]
    -- the id counts before any name, and its bearer is the first one that is free
    have hclaim : claim? a (⟨first, make a⟩ :: slotsFrom (first + 1) (l.map make)) =
        some ⟨first, make a⟩ := by
      simp [claim?, hid]
    have hrest : (⟨first, make a⟩ :: slotsFrom (first + 1) (l.map make)).filter
        (·.index ≠ first) = slotsFrom (first + 1) (l.map make) := by
      rw [List.filter_cons_of_neg (by simp), List.filter_eq_self]
      intro slot hs
      have := le_index_of_mem_slotsFrom hs
      simp only [ne_eq, decide_not, Bool.not_eq_eq_eq_not, Bool.not_true, decide_eq_false_iff_not]
      omega
    simp only [matchUp, hclaim]
    rw [hrest]
    obtain ⟨hpairs, hfree⟩ := ih (first + 1)
    exact ⟨by rw [hpairs]; rfl, hfree⟩

lemma claim_of_map (make : α → β) (hid : ∀ a, Named.id? (make a) = some (Identified.id a))
    {l : List α} {pair : α × Option (Slot β)}
    (h : pair ∈ (matchUp (slots (l.map make)) l).pairs) :
    ∃ slot, pair.2 = some slot ∧ slot.entity = make pair.1 := by
  rw [slots_eq, (matchUp_slotsFrom_map make hid 0 l).1, ← slots_eq] at h
  obtain ⟨index, hi⟩ := List.mem_iff_getElem?.mp h
  obtain ⟨ha, hslot⟩ := List.getElem?_zip_eq_some.mp hi
  simp only [slots, List.getElem?_map, List.getElem?_zipIdx, ha, Option.map_some,
    Option.some.injEq] at hslot
  exact ⟨_, hslot.symm, rfl⟩

lemma orphans_map_eq_nil (make : α → β)
    (hid : ∀ a, Named.id? (make a) = some (Identified.id a)) (l : List α) :
    (matchUp (slots (l.map make)) l).orphans l = [] := by
  rw [Matching.orphans, slots_eq, (matchUp_slotsFrom_map make hid 0 l).2]
  rfl

end Armature.Plan
