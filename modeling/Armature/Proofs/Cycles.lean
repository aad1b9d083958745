import Mathlib.Logic.Relation

/-! Relations without cycles, and the cycles of a relation that is put together from such ones. -/

namespace Armature

open Relation

variable {α : Type} {R S T : α → α → Prop} {P : α → Prop} {a b : α}

def NoCycle (R : α → α → Prop) : Prop := ∀ a, ¬ TransGen R a a

lemma not_cycle_of_acc (h : Acc (fun b a => R a b) a) : ¬ TransGen R a a := by
  induction h with
  | intro a _ ih =>
    intro hc
    obtain ⟨b, hab, hba⟩ := TransGen.head'_iff.mp hc
    exact ih b hab (TransGen.tail' hba hab)

lemma noCycle_of_rank (rank : α → Nat) (h : ∀ a b, R a b → rank b < rank a) : NoCycle R := by
  have hlt : ∀ a b, TransGen R a b → rank b < rank a := by
    intro a b hab
    induction hab with
    | single hab => exact h _ _ hab
    | tail _ hbc ih => exact Nat.lt_trans (h _ _ hbc) ih
  exact fun a hc => Nat.lt_irrefl _ (hlt a a hc)

/-- What holds at the start of a way and goes on from step to step makes it a way of another kind. -/
lemma transGen_of_along (h : TransGen R a b) (ha : P a)
    (hstep : ∀ x y, ReflTransGen R a x → R x y → ReflTransGen R y b → P x → S x y ∧ P y) :
    TransGen S a b ∧ P b := by
  induction h with
  | single hab =>
    obtain ⟨hs, hb⟩ := hstep _ _ .refl hab .refl ha
    exact ⟨.single hs, hb⟩
  | tail hab hbc ih =>
    obtain ⟨hs, hb⟩ := ih fun x y hax hxy hyb => hstep x y hax hxy (hyb.tail hbc)
    obtain ⟨hbc', hc⟩ := hstep _ _ hab.to_reflTransGen hbc .refl hb
    exact ⟨hs.tail hbc', hc⟩

/-- Two relations without cycles make none together if a way never comes back from the one to the
other. -/
lemma noCycle_of_switch (hS : NoCycle S) (hT : NoCycle T)
    (h : ∀ x y, R x y → P x ∧ S x y ∧ P y ∨ ¬ P x ∧ T x y) : NoCycle R := by
  intro a hc
  by_cases hx : ∃ x, P x ∧ TransGen R x x ∧ ReflTransGen R a x
  · obtain ⟨x, hx, hxx, -⟩ := hx
    refine hS x (transGen_of_along hxx hx fun y z _ hyz _ hy => ?_).1
    exact ((h y z hyz).resolve_right fun hn => hn.1 hy).2
  · refine hT a (transGen_of_along hc (P := fun _ => True) trivial fun x y hax hxy hya _ => ?_).1
    refine ⟨((h x y hxy).resolve_left fun hp => hx ⟨x, hp.1, ?_, hax⟩).2, trivial⟩
    exact (TransGen.single hxy).trans_left (hya.trans hax)

end Armature
