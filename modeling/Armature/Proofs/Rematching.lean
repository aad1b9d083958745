import Armature.Proofs.Acts

/-! Matching the same desired entities again, against what the live ones have become. An entity that
was claimed keeps the mark by which it was found, and nobody else comes to bear a mark of a desired
entity but the one that stands for it: so everything is claimed as before. -/

namespace Armature.Plan

variable {α β γ : Type}

inductive Mark
  | id
  | name

def Mark.fits [Desired α] [Named β] : Mark → β → α → Bool
  | .id, b, a => Named.id? b == some (Identified.id a)
  | .name, b, a => Named.name b == Desired.name a

section Claims

variable [Desired α] [Named β] {a : α} {free : List (Slot β)} {slot : Slot β}

lemma claim?_eq (a : α) (free : List (Slot β)) : claim? a free =
    ((free.find? fun slot => Mark.id.fits slot.entity a) <|>
      free.find? fun slot => Mark.name.fits slot.entity a) := rfl

lemma claim?_eq_none_iff : claim? a free = none ↔
    ∀ mark : Mark, ∀ slot ∈ free, mark.fits slot.entity a = false := by
  rw [claim?_eq, Option.orElse_eq_none, List.find?_eq_none, List.find?_eq_none]
  constructor
  · rintro ⟨hid, hname⟩ mark slot hm
    cases mark with
    | id => exact Bool.eq_false_iff.mpr (hid slot hm)
    | name => exact Bool.eq_false_iff.mpr (hname slot hm)
  · intro h
    exact ⟨fun slot hm => Bool.eq_false_iff.mp (h .id slot hm),
      fun slot hm => Bool.eq_false_iff.mp (h .name slot hm)⟩

lemma fits_of_find? {mark : Mark} {free : List (Slot β)}
    (h : free.find? (fun slot => mark.fits slot.entity a) = some slot) :
    mark.fits slot.entity a = true :=
  List.find?_some (p := fun slot : Slot β => mark.fits slot.entity a) h

lemma claim?_eq_some_iff : claim? a free = some slot ↔
    free.find? (fun slot => Mark.id.fits slot.entity a) = some slot ∨
      free.find? (fun slot => Mark.id.fits slot.entity a) = none ∧
        free.find? (fun slot => Mark.name.fits slot.entity a) = some slot := by
  rw [claim?_eq, Option.orElse_eq_some]

end Claims

def remaining (free : List (Slot β)) : Option (Slot β) → List (Slot β)
  | none => free
  | some slot => free.filter (·.index ≠ slot.index)

lemma mem_remaining {free : List (Slot β)} {claim : Option (Slot β)} {slot : Slot β} :
    slot ∈ remaining free claim ↔ slot ∈ free ∧ ∀ s ∈ claim, slot.index ≠ s.index := by
  cases claim with
  | none => simp [remaining]
  | some s => simp [remaining]

lemma remaining_sublist (free : List (Slot β)) (claim : Option (Slot β)) :
    (remaining free claim).Sublist free := by
  cases claim with
  | none => exact .refl _
  | some s => exact List.filter_sublist

lemma matchUp_cons [Desired α] [Named β] (free : List (Slot β)) (a : α) (l : List α) :
    (matchUp free (a :: l)).pairs =
      (a, claim? a free) :: (matchUp (remaining free (claim? a free)) l).pairs := by
  cases h : claim? a free <;> simp only [matchUp, h, remaining]

lemma matchUp_cons_free [Desired α] [Named β] (free : List (Slot β)) (a : α) (l : List α) :
    (matchUp free (a :: l)).free = (matchUp (remaining free (claim? a free)) l).free := by
  cases h : claim? a free <;> simp only [matchUp, h, remaining]

lemma find?_eq_some_of_first {R : γ → γ → Prop} {l : List γ} {p : γ → Bool} {c : γ}
    (hl : l.Pairwise R) (hc : c ∈ l) (hp : p c = true) (h : ∀ d ∈ l, p d = true → ¬ R d c) :
    l.find? p = some c := by
  obtain ⟨d, hd⟩ := Option.isSome_iff_exists.mp (List.find?_isSome.mpr ⟨c, hc, hp⟩)
  obtain ⟨hpd, before, after, rfl, hbefore⟩ := List.find?_eq_some_iff_append.mp hd
  rcases List.mem_append.mp hc with hc | hc
  · have := hbefore c hc
    simp [hp] at this
  rcases List.mem_cons.mp hc with rfl | hc
  · exact hd
  · have hr := (List.pairwise_cons.mp (List.pairwise_append.mp hl).2.1).1 c hc
    exact (h d (by simp) hpd hr).elim

lemma index_le_of_find? {free : List (Slot β)} {p : Slot β → Bool} {slot other : Slot β}
    (hfree : free.Pairwise (·.index < ·.index)) (hslot : free.find? p = some slot)
    (hm : other ∈ free) (hp : p other = true) : slot.index ≤ other.index := by
  obtain ⟨-, before, after, rfl, hbefore⟩ := List.find?_eq_some_iff_append.mp hslot
  rcases List.mem_append.mp hm with hm | hm
  · have := hbefore other hm
    simp [hp] at this
  rcases List.mem_cons.mp hm with rfl | hm
  · exact le_rfl
  · exact ((List.pairwise_cons.mp (List.pairwise_append.mp hfree).2.1).1 other hm).le

instance [Named β] : Named (Tracked β) where
  id? t := Named.id? t.entity
  name t := Named.name t.entity

variable [Desired α] [Named β]

lemma Mark.fits_tracked (mark : Mark) (t : Tracked β) (a : α) :
    mark.fits t a = mark.fits t.entity a := by
  cases mark <;> rfl

/-- What has become of the live entities, seen from a matching of them. -/
structure Follows (free : List (Slot β)) (next : List (Slot (Tracked β))) (l : List α) : Prop where
  distinct : Distinct next
  ordered : next.Pairwise fun s t => s.entity.Before t.entity
  /-- What was claimed is still there with the mark it was claimed by, and what was missing has been
  made with its id. -/
  heirs : ∀ pair ∈ (matchUp free l).pairs, ∃ t ∈ next,
    t.entity.origin = pair.2.map Slot.index ∧
      (pair.2 = none → Mark.id.fits t.entity pair.1 = true) ∧
        ∀ slot ∈ pair.2, ∀ mark : Mark, mark.fits slot.entity pair.1 = true →
          mark.fits t.entity pair.1 = true
  /-- No mark of a desired entity comes up but on the entity that stands for it. -/
  marks : ∀ t ∈ next, ∀ a ∈ l, ∀ mark : Mark, mark.fits t.entity a = true →
    (∃ slot ∈ free, t.entity.origin = some slot.index ∧ mark.fits slot.entity a = true) ∨
      ∃ claim, (a, claim) ∈ (matchUp free l).pairs ∧ t.entity.origin = claim.map Slot.index

namespace Follows

variable {free : List (Slot β)} {next : List (Slot (Tracked β))} {a : α} {l : List α}

lemma eq_of_origin (h : Follows free next l) {s t : Slot (Tracked β)} {i : ℕ} (hs : s ∈ next)
    (ht : t ∈ next) (hsi : s.entity.origin = some i) (hti : t.entity.origin = some i) : s = t := by
  have hsymm : Std.Symm fun s t : Slot (Tracked β) =>
      ¬ (s.entity.origin = some i ∧ t.entity.origin = some i) := ⟨fun _ _ h h' => h h'.symm⟩
  have hpair : next.Pairwise fun s t => ¬ (s.entity.origin = some i ∧ t.entity.origin = some i) :=
    h.ordered.imp fun hst ⟨hsi, hti⟩ => Nat.lt_irrefl i (hst i hsi i hti)
  by_contra hne
  exact hpair.forall hs ht hne ⟨hsi, hti⟩

lemma eq_of_index (h : Follows free next l) {s t : Slot (Tracked β)} (hs : s ∈ next) (ht : t ∈ next)
    (hi : s.index = t.index) : s = t :=
  List.inj_on_of_nodup_map h.distinct hs ht hi

variable (hids : ((a :: l).map Identified.id).Nodup) (hfree : free.Pairwise (·.index < ·.index))
  (h : Follows free next (a :: l))

include hids in
lemma ne_head {b : α} (hb : b ∈ l) : Identified.id b ≠ Identified.id a := fun he =>
  (List.nodup_cons.mp hids).1 (he ▸ List.mem_map_of_mem hb)

include hids h in
lemma marks_head {t : Slot (Tracked β)} {mark : Mark} (ht : t ∈ next)
    (hfits : mark.fits t.entity a = true) :
    (∃ slot ∈ free, t.entity.origin = some slot.index ∧ mark.fits slot.entity a = true) ∨
      t.entity.origin = (claim? a free).map Slot.index := by
  rcases h.marks t ht a List.mem_cons_self mark hfits with hold | ⟨claim, hclaim, horigin⟩
  · exact .inl hold
  · rw [matchUp_cons] at hclaim
    rcases List.mem_cons.mp hclaim with he | hclaim
    · obtain rfl : claim = claim? a free := congrArg Prod.snd he
      exact .inr horigin
    · exact (ne_head hids (mem_of_pair hclaim) rfl).elim

include hids h in
lemma claim?_of_none (hclaim : claim? a free = none) : ∃ t ∈ next,
    claim? a next = some t ∧ t.entity.origin = none ∧ Mark.id.fits t.entity a = true := by
  obtain ⟨s, hs, horigin, hid, -⟩ := h.heirs (a, claim? a free) (matchUp_cons free a l ▸ List.mem_cons_self)
  obtain ⟨t, ht⟩ := Option.isSome_iff_exists.mp
    (List.find?_isSome (p := fun slot => Mark.id.fits slot.entity a).mpr ⟨s, hs, hid hclaim⟩)
  have hm := List.mem_of_find?_eq_some ht
  have hfits := fits_of_find? ht
  refine ⟨t, hm, claim?_eq_some_iff.mpr (.inl ht), ?_, hfits⟩
  rcases h.marks_head hids hm hfits with ⟨slot, hslot, -, hold⟩ | horigin
  · rw [claim?_eq_none_iff.mp hclaim .id slot hslot] at hold
    cases hold
  · rw [horigin, hclaim]
    rfl

include hids hfree h in
lemma claim?_of_some {slot : Slot β} (hclaim : claim? a free = some slot) : ∃ t ∈ next,
    claim? a next = some t ∧ t.entity.origin = some slot.index := by
  obtain ⟨s, hs, horigin, -, hkeeps⟩ :=
    h.heirs (a, claim? a free) (matchUp_cons free a l ▸ List.mem_cons_self)
  rw [hclaim] at horigin
  have hkeeps := hkeeps slot hclaim
  -- nothing that bears the mark of the claim comes before what was claimed
  have hfirst : ∀ mark : Mark, free.find? (fun slot => mark.fits slot.entity a) = some slot →
      next.find? (fun t => mark.fits t.entity a) = some s := by
    intro mark hfind
    apply find?_eq_some_of_first h.ordered hs (hkeeps mark (fits_of_find? hfind))
    intro t ht hfits hearlier
    rcases h.marks_head hids ht hfits with ⟨other, hother, horigin', hfits'⟩ | horigin'
    · have hle := index_le_of_find? hfree hfind hother hfits'
      exact (hearlier _ horigin' _ horigin).not_ge hle
    · rw [hclaim] at horigin'
      exact Nat.lt_irrefl _ (hearlier _ horigin' _ horigin)
  rcases claim?_eq_some_iff.mp hclaim with hid | ⟨hid, hname⟩
  · exact ⟨s, hs, claim?_eq_some_iff.mpr (.inl (hfirst .id hid)), horigin⟩
  cases hnext : next.find? fun t => Mark.id.fits t.entity a with
  | none =>
    exact ⟨s, hs, claim?_eq_some_iff.mpr (.inr ⟨hnext, hfirst .name hname⟩), horigin⟩
  | some t =>
    -- no live entity had the id, so it was given to the one that was claimed by its name
    have ht := List.mem_of_find?_eq_some hnext
    refine ⟨t, ht, claim?_eq_some_iff.mpr (.inl hnext), ?_⟩
    rcases h.marks_head hids ht (fits_of_find? hnext) with ⟨other, hother, -, hfits⟩ | horigin'
    · exact (List.find?_eq_none.mp hid other hother hfits).elim
    · rw [horigin', hclaim]
      rfl

include hids hfree h in
lemma claim?_head : ∃ t ∈ next, claim? a next = some t ∧
    t.entity.origin = (claim? a free).map Slot.index ∧
      (claim? a free = none → Mark.id.fits t.entity a = true) := by
  cases hclaim : claim? a free with
  | none =>
    obtain ⟨t, ht, hnext, horigin, hfits⟩ := h.claim?_of_none hids hclaim
    exact ⟨t, ht, hnext, horigin, fun _ => hfits⟩
  | some slot =>
    obtain ⟨t, ht, hnext, horigin⟩ := h.claim?_of_some hids hfree hclaim
    exact ⟨t, ht, hnext, horigin, nofun⟩

include hids h in
lemma tail {t : Slot (Tracked β)} (ht : t ∈ next)
    (horigin : t.entity.origin = (claim? a free).map Slot.index)
    (hid : claim? a free = none → Mark.id.fits t.entity a = true) (hfree : Distinct free) :
    Follows (remaining free (claim? a free)) (remaining next (some t)) l := by
  refine ⟨h.distinct.filter _, h.ordered.filter _, fun pair hp => ?_, fun s hs b hb mark hfits => ?_⟩
  · have hp' : pair ∈ (matchUp free (a :: l)).pairs := matchUp_cons free a l ▸ List.mem_cons_of_mem _ hp
    obtain ⟨s, hs, horigin', hid', hkeeps⟩ := h.heirs pair hp'
    refine ⟨s, mem_remaining.mpr ⟨hs, fun u hu hindex => ?_⟩, horigin', hid', hkeeps⟩
    obtain rfl := Option.some.inj hu
    obtain rfl := h.eq_of_index hs ht hindex
    rw [horigin'] at horigin
    -- the heir of the first one is the heir of nobody else
    cases hclaim : claim? a free with
    | none =>
      have hpair : pair.2 = none := by simpa [hclaim] using horigin
      have hfits := hid hclaim
      have hfits' := hid' hpair
      simp only [Mark.fits, beq_iff_eq] at hfits hfits'
      exact ne_head hids (mem_of_pair hp) (Option.some.inj (hfits'.symm.trans hfits))
    | some slot =>
      rw [hclaim] at horigin hp
      obtain ⟨other, hother, hindex⟩ := Option.map_eq_some_iff.mp horigin
      have hm : other ∈ remaining free (some slot) := mem_free_of_claim (hfree.filter _) hp hother
      exact (mem_remaining.mp hm).2 slot rfl hindex
  · obtain ⟨hs, hne⟩ := mem_remaining.mp hs
    rcases h.marks s hs b (List.mem_cons_of_mem _ hb) mark hfits with
      ⟨slot, hslot, horigin', hold⟩ | ⟨claim, hclaim, horigin'⟩
    · refine .inl ⟨slot, mem_remaining.mpr ⟨hslot, fun u hu hindex => ?_⟩, horigin', hold⟩
      rw [hu, Option.map_some, ← hindex] at horigin
      exact hne t rfl (congrArg Slot.index (h.eq_of_origin hs ht horigin' horigin))
    · rw [matchUp_cons] at hclaim
      rcases List.mem_cons.mp hclaim with he | hclaim
      · obtain rfl : b = a := congrArg Prod.fst he
        exact (ne_head hids hb rfl).elim
      · exact .inr ⟨claim, hclaim, horigin'⟩

end Follows

lemma matchUp_follows {free : List (Slot β)} {next : List (Slot (Tracked β))} {l : List α}
    (hids : (l.map Identified.id).Nodup) (hfree : free.Pairwise (·.index < ·.index))
    (h : Follows free next l) {pair : α × Option (Slot β)} (hp : pair ∈ (matchUp free l).pairs) :
    ∃ t, (pair.1, some t) ∈ (matchUp next l).pairs ∧
      t.entity.origin = pair.2.map Slot.index ∧
        (pair.2 = none → Mark.id.fits t.entity pair.1 = true) := by
  induction l generalizing free next with
  | nil => cases hp
  | cons a l ih =>
    obtain ⟨t, ht, hclaim, horigin, hid⟩ := h.claim?_head hids hfree
    rw [matchUp_cons] at hp ⊢
    rw [hclaim]
    rcases List.mem_cons.mp hp with rfl | hp
    · exact ⟨t, List.mem_cons_self, horigin, hid⟩
    · have hdistinct : Distinct free := (hfree.map Slot.index fun _ _ h => h).imp Nat.ne_of_lt
      obtain ⟨s, hs, hs'⟩ := ih (List.nodup_cons.mp hids).2 (hfree.sublist (remaining_sublist _ _))
        (h.tail hids ht horigin hid hdistinct) hp
      exact ⟨s, List.mem_cons_of_mem _ hs, hs'⟩

def Slot.forget (slot : Slot (Tracked β)) : Slot β := ⟨slot.index, slot.entity.entity⟩

omit [Named β] in
lemma slots_map_forget (next : List (Tracked β)) :
    slots (next.map Tracked.entity) = (slots next).map Slot.forget := by
  simp only [slots, List.zipIdx_map, List.map_map]
  rfl

lemma claim?_forget (a : α) (free : List (Slot (Tracked β))) :
    claim? a (free.map Slot.forget) = (claim? a free).map Slot.forget := by
  have hfind : ∀ mark : Mark, (free.map Slot.forget).find? (fun slot => mark.fits slot.entity a) =
      (free.find? fun slot => mark.fits slot.entity a).map Slot.forget := by
    intro mark
    rw [List.find?_map]
    congr 2
    funext slot
    exact (mark.fits_tracked slot.entity a).symm
  rw [claim?_eq, claim?_eq, hfind .id, hfind .name]
  cases free.find? fun slot => Mark.id.fits slot.entity a <;> rfl

omit [Named β] in
lemma remaining_forget (free : List (Slot (Tracked β))) (claim : Option (Slot (Tracked β))) :
    remaining (free.map Slot.forget) (claim.map Slot.forget) =
      (remaining free claim).map Slot.forget := by
  cases claim with
  | none => rfl
  | some slot => exact List.filter_map

lemma matchUp_forget (free : List (Slot (Tracked β))) (l : List α) :
    (matchUp (free.map Slot.forget) l).pairs =
        (matchUp free l).pairs.map (Prod.map id (Option.map Slot.forget)) ∧
      (matchUp (free.map Slot.forget) l).free = (matchUp free l).free.map Slot.forget := by
  induction l generalizing free with
  | nil => exact ⟨rfl, rfl⟩
  | cons a l ih =>
    obtain ⟨hpairs, hfree⟩ := ih (remaining free (claim? a free))
    rw [matchUp_cons, matchUp_cons, matchUp_cons_free, matchUp_cons_free, claim?_forget,
      remaining_forget, hpairs, hfree]
    exact ⟨rfl, rfl⟩

end Armature.Plan
