import Armature.Proofs.CarryingOut

/-! What a plan does to the live entities of one kind. An act concerns one position of the snapshot,
so that the order of acts on different positions does not matter to an entity: it goes through the
acts on its own position, and what is created goes through none. -/

namespace Armature.Plan

variable {β : Type}

inductive Act (β : Type)
  | append (entity : β)
  | overwrite (index : ℕ) (change : β → β)
  | remove (index : ℕ)

namespace Act

def position? : Act β → Option ℕ
  | append _ => none
  | overwrite index _ => some index
  | remove index => some index

/-- What becomes of an entity, if it stays. -/
def on (t : Tracked β) : Act β → Option (Tracked β)
  | append _ => some t
  | overwrite index change => some (t.overwrite index change)
  | remove index => if t.origin = some index then none else some t

def carryOut (l : List (Tracked β)) : Act β → List (Tracked β)
  | append entity => l ++ [⟨none, entity⟩]
  | overwrite index change => l.map (Tracked.overwrite index change)
  | remove index => l.filter (·.origin ≠ some index)

variable {act : Act β} {acts : List (Act β)} {l : List (Tracked β)} {s t : Tracked β} {index : ℕ}

lemma on_eq_self (h : ∀ index ∈ act.position?, t.origin ≠ some index) : act.on t = some t := by
  cases act with
  | append entity => rfl
  | overwrite index change => exact congrArg some (if_neg (h index rfl))
  | remove index => exact if_neg (h index rfl)

lemma origin_of_on (h : act.on s = some t) : t.origin = s.origin := by
  cases act with
  | append entity =>
    obtain rfl := Option.some.inj h
    rfl
  | overwrite index change =>
    obtain rfl := Option.some.inj h
    exact origin_overwrite index change s
  | remove index =>
    simp only [on] at h
    split_ifs at h
    obtain rfl := Option.some.inj h
    rfl

lemma foldlM_on_eq_self (h : ∀ index ∈ acts.filterMap position?, t.origin ≠ some index) :
    acts.foldlM on t = some t := by
  induction acts with
  | nil => rfl
  | cons act acts ih =>
    rw [List.foldlM_cons, on_eq_self fun index hi => ?_]
    · apply ih
      intro index hi
      obtain ⟨other, ho, hoi⟩ := List.mem_filterMap.mp hi
      exact h index (List.mem_filterMap.mpr ⟨other, List.mem_cons_of_mem _ ho, hoi⟩)
    · exact h index (List.mem_filterMap.mpr ⟨act, List.mem_cons_self, hi⟩)

lemma origin_of_foldlM_on (h : acts.foldlM on s = some t) : t.origin = s.origin := by
  induction acts generalizing s with
  | nil =>
    obtain rfl := Option.some.inj h
    rfl
  | cons act acts ih =>
    obtain ⟨r, hr, h⟩ := Option.bind_eq_some_iff.mp h
    exact (ih h).trans (origin_of_on hr)

lemma eq_of_foldlM_on (h : acts.foldlM on s = some t)
    (hkept : ∀ index change, overwrite index change ∈ acts → s.origin ≠ some index) : t = s := by
  induction acts with
  | nil => exact (Option.some.inj h).symm
  | cons act acts ih =>
    obtain ⟨r, hr, h⟩ := Option.bind_eq_some_iff.mp h
    have hrs : r = s := by
      cases act with
      | append entity => exact (Option.some.inj hr).symm
      | overwrite index change =>
        have hne := hkept index change List.mem_cons_self
        exact (Option.some.inj hr).symm.trans (if_neg hne)
      | remove index =>
        simp only [on] at hr
        split_ifs at hr
        exact (Option.some.inj hr).symm
    rw [hrs] at h
    exact ih h fun index change hm => hkept index change (List.mem_cons_of_mem _ hm)

lemma foldlM_on_eq (hnodup : (acts.filterMap position?).Nodup) (hact : act ∈ acts)
    (hposition : act.position? = some index) (ht : t.origin = some index) :
    acts.foldlM on t = act.on t := by
  obtain ⟨before, after, rfl⟩ := List.append_of_mem hact
  rw [List.filterMap_append, List.filterMap_cons_some hposition] at hnodup
  obtain ⟨-, hafter, hbefore⟩ := List.nodup_append.mp hnodup
  have hfirst : before.foldlM on t = some t := by
    apply foldlM_on_eq_self
    intro i hi ho
    exact hbefore i hi index List.mem_cons_self (Option.some.inj (ho.symm.trans ht))
  rw [List.foldlM_append, hfirst]
  change act.on t >>= _ = _
  cases hs : act.on t with
  | none => rfl
  | some s =>
    apply foldlM_on_eq_self
    intro i hi ho
    rw [origin_of_on hs, ht] at ho
    obtain rfl := Option.some.inj ho
    exact (List.nodup_cons.mp hafter).1 hi

/-- What an act creates. -/
def made? : Act β → Option (Tracked β)
  | append entity => some ⟨none, entity⟩
  | overwrite _ _ | remove _ => none

lemma carryOut_eq (act : Act β) (l : List (Tracked β)) :
    act.carryOut l = l.filterMap act.on ++ act.made?.toList := by
  cases act with
  | append entity => simp [carryOut, on, made?]
  | overwrite index change => simp [carryOut, on, made?]
  | remove index =>
    simp only [carryOut, made?, Option.toList_none, List.append_nil]
    rw [← List.filterMap_eq_filter]
    apply List.filterMap_congr
    intro t _
    by_cases h : t.origin = some index <;> simp [on, Option.guard, h]

lemma on_made? (h : act.made? = some t) : acts.foldlM on t = some t := by
  cases act with
  | append entity =>
    obtain rfl := Option.some.inj h
    exact foldlM_on_eq_self fun _ _ => nofun
  | overwrite index change => cases h
  | remove index => cases h

lemma foldl_carryOut_eq (acts : List (Act β)) (l : List (Tracked β)) :
    acts.foldl carryOut l = l.filterMap (acts.foldlM on) ++ acts.filterMap made? := by
  induction acts generalizing l with
  | nil => simp [pure]
  | cons act acts ih =>
    have hmade : act.made?.toList.filterMap (acts.foldlM on) = act.made?.toList := by
      cases h : act.made? with
      | none => rfl
      | some t => simp [on_made? h]
    have hon : (l.filterMap act.on).filterMap (acts.foldlM on) =
        l.filterMap ((act :: acts).foldlM on) := List.filterMap_filterMap
    rw [List.foldl_cons, ih, carryOut_eq, List.filterMap_append, hmade, hon, List.append_assoc]
    cases h : act.made? with
    | none => rw [List.filterMap_cons_none h]; rfl
    | some t => rw [List.filterMap_cons_some h]; rfl

lemma mem_foldl_carryOut : t ∈ acts.foldl carryOut l ↔
    (∃ s ∈ l, acts.foldlM on s = some t) ∨ ∃ entity, append entity ∈ acts ∧ t = ⟨none, entity⟩ := by
  rw [foldl_carryOut_eq, List.mem_append, List.mem_filterMap, List.mem_filterMap]
  apply or_congr_right
  constructor
  · rintro ⟨act, hm, ht⟩
    cases act with
    | append entity => exact ⟨entity, hm, (Option.some.inj ht).symm⟩
    | overwrite index change => cases ht
    | remove index => cases ht
  · rintro ⟨entity, hm, rfl⟩
    exact ⟨append entity, hm, rfl⟩

end Act

def Tracked.Before (s t : Tracked β) : Prop := ∀ i ∈ s.origin, ∀ j ∈ t.origin, i < j

def Ascending (l : List (Tracked β)) : Prop := l.Pairwise Tracked.Before

lemma track_ascending (live : List β) : Ascending (track live) := by
  apply List.pairwise_map.mpr
  apply (slots_ascending live).imp
  intro s t hst i hi j hj
  obtain rfl := Option.some.inj hi
  obtain rfl := Option.some.inj hj
  exact hst

lemma Ascending.carryOut {l : List (Tracked β)} (h : Ascending l) (act : Act β) :
    Ascending (act.carryOut l) := by
  cases act with
  | append entity =>
    refine List.pairwise_append.mpr ⟨h, List.pairwise_singleton _ _, fun s _ t ht => ?_⟩
    obtain rfl := List.mem_singleton.mp ht
    exact fun _ _ _ => nofun
  | overwrite index change =>
    refine List.pairwise_map.mpr (h.imp fun hst => ?_)
    simpa only [Tracked.Before, origin_overwrite] using hst
  | remove index => exact h.filter _

lemma Ascending.foldl {l : List (Tracked β)} (h : Ascending l) (acts : List (Act β)) :
    Ascending (acts.foldl Act.carryOut l) := by
  induction acts generalizing l with
  | nil => exact h
  | cons act acts ih => exact ih (h.carryOut act)

end Armature.Plan
