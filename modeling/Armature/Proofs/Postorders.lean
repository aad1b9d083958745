import Armature.Graph.Postorder
import Armature.Proofs.Attempts
import Armature.Proofs.Cycles

/-! Depth-first orders. A walk that succeeds puts every node after the nodes it needs, so that none
needs itself; a walk that fails has met a node that is not well-formed or that needs itself. -/

namespace Armature.Needs

open Relation

variable {α ε : Type} {g : Needs α ε} {cycle : List α → α → ε} {a : α} {e : ε}
  {l needed settled underWay : List α}

def Edge (g : Needs α ε) (a b : α) : Prop := ∃ needed, g.of a = .ok needed ∧ b ∈ needed

/-- A node that a walk over all nodes comes to. -/
def Met (g : Needs α ε) (a : α) : Prop := a ∈ g.nodes ∨ ∃ b, g.Edge b a

/-- Every node needs only nodes further down in the list. -/
def Postordered (g : Needs α ε) : List α → Prop
  | [] => True
  | a :: l => (∃ needed, g.of a = .ok needed ∧ needed ⊆ l) ∧ g.Postordered l

/-- The nodes under way lead to the one that is visited. -/
def Path (g : Needs α ε) : (underWay : List α) → (a : α) → Prop
  | [], _ => True
  | b :: underWay, a => g.Edge b a ∧ g.Path underWay b

namespace Postordered

lemma of_append {before : List α} (h : g.Postordered (before ++ l)) : g.Postordered l := by
  induction before with
  | nil => exact h
  | cons b before ih => exact ih h.2

lemma ok (h : g.Postordered l) (ha : a ∈ l) : ∃ needed, g.of a = .ok needed ∧ needed ⊆ l := by
  induction l with
  | nil => cases ha
  | cons b l ih =>
    obtain ⟨⟨needed, hof, hsub⟩, hl⟩ := h
    rcases List.mem_cons.mp ha with rfl | ha
    · exact ⟨needed, hof, List.subset_cons_of_subset a hsub⟩
    · obtain ⟨needed, hof, hsub⟩ := ih hl ha
      exact ⟨needed, hof, List.subset_cons_of_subset b hsub⟩

lemma acc (h : g.Postordered l) : ∀ a ∈ l, Acc (fun b a => g.Edge a b) a := by
  induction l with
  | nil => simp
  | cons b l ih =>
    obtain ⟨⟨needed, hof, hsub⟩, hl⟩ := h
    have hb : Acc (fun b a => g.Edge a b) b := by
      refine Acc.intro b fun c hc => ?_
      obtain ⟨needed', hof', hm⟩ := hc
      obtain rfl := Except.ok.inj (hof.symm.trans hof')
      exact ih hl c (hsub hm)
    exact List.forall_mem_cons.mpr ⟨hb, ih hl⟩

end Postordered

lemma Path.reaches (h : g.Path underWay a) : ∀ b ∈ underWay, TransGen g.Edge b a := by
  induction underWay generalizing a with
  | nil => simp
  | cons b underWay ih =>
    intro c hc
    rcases List.mem_cons.mp hc with rfl | hc
    · exact .single h.1
    · exact (ih h.2 c hc).tail h.1

lemma foldlM_settles {step : List α → α → Except ε (List α)}
    (hstep : ∀ settled b l, g.Postordered settled → step settled b = .ok l →
      g.Postordered l ∧ b ∈ l ∧ settled ⊆ l)
    (hs : g.Postordered settled) (h : needed.foldlM step settled = .ok l) :
    g.Postordered l ∧ needed ⊆ l ∧ settled ⊆ l := by
  induction needed generalizing settled with
  | nil =>
    obtain rfl : settled = l := by simpa [pure, Except.pure] using h
    exact ⟨hs, List.nil_subset _, List.Subset.refl _⟩
  | cons b needed ih =>
    rw [List.foldlM_cons, Attempts.bind_ok] at h
    obtain ⟨next, hnext, h⟩ := h
    obtain ⟨hordered, hb, hsub⟩ := hstep settled b next hs hnext
    obtain ⟨hordered, hneeded, hsub'⟩ := ih hordered h
    exact ⟨hordered, List.cons_subset.mpr ⟨hsub' hb, hneeded⟩, List.Subset.trans hsub hsub'⟩

variable [DecidableEq α]

lemma visit_settles (hs : g.Postordered settled) (h : g.visit cycle underWay settled a = .ok l) :
    g.Postordered l ∧ a ∈ l ∧ settled ⊆ l := by
  fun_induction visit g cycle underWay settled a generalizing l with
  | case1 underWay settled a ha =>
    obtain rfl := Except.ok.inj h
    exact ⟨hs, ha, List.Subset.refl _⟩
  | case2 => cases h
  | case3 => cases h
  | case4 underWay settled a ha needed hof hu _ ih =>
    obtain ⟨next, hnext, rfl⟩ := Attempts.map_ok.mp h
    obtain ⟨hordered, hneeded, hsub⟩ :=
      foldlM_settles (fun settled b l hs h => ih settled b hs h) hs hnext
    exact ⟨⟨⟨needed, hof, hneeded⟩, hordered⟩, List.mem_cons_self,
      List.subset_cons_of_subset a hsub⟩

lemma visit_error (hmet : g.Met a) (hpath : g.Path underWay a)
    (h : g.visit cycle underWay settled a = .error e) :
    (∃ b, g.Met b ∧ g.of b = .error e) ∨
      ∃ underWay b, e = cycle underWay b ∧ b ∈ underWay ∧ TransGen g.Edge b b := by
  fun_induction visit g cycle underWay settled a with
  | case1 => cases h
  | case2 underWay settled a _ e' hof =>
    obtain rfl := Except.error.inj h
    exact .inl ⟨a, hmet, hof⟩
  | case3 underWay settled a _ needed _ hu =>
    obtain rfl := Except.error.inj h
    exact .inr ⟨underWay.reverse, a, rfl, List.mem_reverse.mpr hu, hpath.reaches a hu⟩
  | case4 underWay settled a _ needed hof hu _ ih =>
    obtain ⟨b, hb, t, ht⟩ := Attempts.exists_error_of_foldlM (Attempts.map_error.mp h)
    have hedge : g.Edge a b := ⟨needed, hof, hb⟩
    exact ih t b (.inr ⟨a, hedge⟩) ⟨hedge, hpath⟩ ht

lemma visit_nodup (hs : settled.Nodup) (h : g.visit cycle underWay settled a = .ok l) :
    l.Nodup ∧ ∀ b ∈ l, b ∈ settled ∨ b ∉ underWay := by
  fun_induction visit g cycle underWay settled a generalizing l with
  | case1 underWay settled a ha =>
    obtain rfl := Except.ok.inj h
    exact ⟨hs, fun b hb => .inl hb⟩
  | case2 => cases h
  | case3 => cases h
  | case4 underWay settled a ha needed _ hu _ ih =>
    obtain ⟨next, hnext, rfl⟩ := Attempts.map_ok.mp h
    have hkeeps : next.Nodup ∧ ∀ b ∈ next, b ∈ settled ∨ b ∉ a :: underWay := by
      refine Attempts.foldlM_keeps
        (fun l => l.Nodup ∧ ∀ b ∈ l, b ∈ settled ∨ b ∉ a :: underWay) ?_ ⟨hs, fun b => .inl⟩ hnext
      rintro b - s t ⟨hs, hsub⟩ ht
      obtain ⟨ht, hsub'⟩ := ih s b hs ht
      exact ⟨ht, fun c hc => (hsub' c hc).elim (hsub c) .inr⟩
    obtain ⟨hnodup, hsub⟩ := hkeeps
    -- a node is not settled while it is under way
    have hnew : a ∉ next := fun hn => (hsub a hn).elim ha fun hne => hne List.mem_cons_self
    refine ⟨List.nodup_cons.mpr ⟨hnew, hnodup⟩, List.forall_mem_cons.mpr ⟨.inr hu, fun b hb => ?_⟩⟩
    exact (hsub b hb).imp_right fun hne hm => hne (List.mem_cons_of_mem a hm)

lemma exists_settled (h : g.order cycle g.nodes = .ok l) : ∃ settled, l = settled.reverse ∧
    g.Postordered settled ∧ settled.Nodup ∧ g.nodes ⊆ settled := by
  obtain ⟨settled, hsettled, rfl⟩ := Attempts.map_ok.mp h
  have hnil : g.Postordered [] := trivial
  obtain ⟨hordered, hnodes, -⟩ := foldlM_settles (fun _ _ _ hs h => visit_settles hs h) hnil hsettled
  have hnodup := Attempts.foldlM_keeps List.Nodup (fun _ _ _ _ hs h => (visit_nodup hs h).1)
    List.nodup_nil hsettled
  exact ⟨settled, rfl, hordered, hnodup, hnodes⟩

lemma order_ok (h : g.order cycle g.nodes = .ok l) :
    (∀ a, g.Met a → ∃ needed, g.of a = .ok needed) ∧ NoCycle g.Edge := by
  obtain ⟨settled, -, hordered, -, hnodes⟩ := exists_settled h
  constructor
  · rintro a (ha | ⟨b, needed, hof, ha⟩)
    · obtain ⟨needed, hof, -⟩ := hordered.ok (hnodes ha)
      exact ⟨needed, hof⟩
    · obtain ⟨needed', hof', hsub⟩ := hordered.ok (hnodes (g.mem_of_ok hof))
      obtain rfl := Except.ok.inj (hof.symm.trans hof')
      obtain ⟨needed, hof, -⟩ := hordered.ok (hsub ha)
      exact ⟨needed, hof⟩
  · intro a hc
    obtain ⟨b, ⟨needed, hof, -⟩, -⟩ := TransGen.head'_iff.mp hc
    exact not_cycle_of_acc (hordered.acc a (hnodes (g.mem_of_ok hof))) hc

lemma order_error (h : g.order cycle g.nodes = .error e) :
    (∃ a, g.Met a ∧ g.of a = .error e) ∨
      ∃ underWay a, e = cycle underWay a ∧ a ∈ underWay ∧ TransGen g.Edge a a := by
  obtain ⟨a, ha, settled, hvisit⟩ := Attempts.exists_error_of_foldlM (Attempts.map_error.mp h)
  have hpath : g.Path [] a := trivial
  exact visit_error (.inl ha) hpath hvisit

end Armature.Needs
