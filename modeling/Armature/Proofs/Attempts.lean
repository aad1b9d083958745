import Mathlib.Tactic

/-! Computations that may fail: what a success says about the parts, and what a fold that succeeds
keeps. -/

namespace Armature.Attempts

variable {ε α β σ : Type}

lemma bind_ok {x : Except ε α} {f : α → Except ε β} {b : β} :
    (x >>= f) = .ok b ↔ ∃ a, x = .ok a ∧ f a = .ok b := by
  cases x with
  | error e => simp [bind, Except.bind]
  | ok a => simp [bind, Except.bind]

lemma then_ok {x : Except ε Unit} {y : Except ε β} {b : β} :
    (x >>= fun _ => y) = .ok b ↔ x = .ok () ∧ y = .ok b := by
  rw [bind_ok]
  exact ⟨fun ⟨_, hx, hy⟩ => ⟨hx, hy⟩, fun ⟨hx, hy⟩ => ⟨(), hx, hy⟩⟩

lemma bind_error {x : Except ε α} {f : α → Except ε β} {e : ε} :
    (x >>= f) = .error e ↔ x = .error e ∨ ∃ a, x = .ok a ∧ f a = .error e := by
  cases x with
  | error e' => simp [bind, Except.bind]
  | ok a => simp [bind, Except.bind]

lemma then_error {x : Except ε Unit} {y : Except ε β} {e : ε} :
    (x >>= fun _ => y) = .error e ↔ x = .error e ∨ x = .ok () ∧ y = .error e := by
  rw [bind_error]
  exact or_congr_right ⟨fun ⟨_, hx, hy⟩ => ⟨hx, hy⟩, fun ⟨hx, hy⟩ => ⟨(), hx, hy⟩⟩

lemma map_ok {x : Except ε α} {f : α → β} {b : β} :
    x.map f = .ok b ↔ ∃ a, x = .ok a ∧ f a = b := by
  cases x <;> simp [Except.map]

lemma map_error {x : Except ε α} {f : α → β} {e : ε} : x.map f = .error e ↔ x = .error e := by
  cases x <;> simp [Except.map]

lemma exists_ok {x : Except ε α} (h : x.toOption.isSome = true) : ∃ a, x = .ok a := by
  cases x with
  | error e => cases h
  | ok a => exact ⟨a, rfl⟩

lemma toOption_eq_some {x : Except ε α} {a : α} : x.toOption = some a ↔ x = .ok a := by
  cases x <;> simp [Except.toOption]

lemma holds_of_all {x : Except ε α} {a : α} {p : α → Prop} [DecidablePred p] (hx : x = .ok a)
    (h : x.toOption.all (fun a => p a) = true) : p a := by
  rw [hx] at h
  exact of_decide_eq_true h

lemma foldlM_keeps {step : σ → α → Except ε σ} (P : σ → Prop) {l : List α} {s t : σ}
    (hstep : ∀ a ∈ l, ∀ s t, P s → step s a = .ok t → P t) (hs : P s)
    (h : l.foldlM step s = .ok t) : P t := by
  induction l generalizing s with
  | nil =>
    obtain rfl : s = t := by simpa [pure, Except.pure] using h
    exact hs
  | cons a l ih =>
    obtain ⟨ha, hl⟩ := List.forall_mem_cons.mp hstep
    rw [List.foldlM_cons, bind_ok] at h
    obtain ⟨s', hs', h⟩ := h
    exact ih hl (ha s s' hs hs') h

lemma foldlM_transfers {step : σ → α → Except ε σ} (R : σ → σ → Prop) {l : List α} {s s' t : σ}
    (hstep : ∀ a ∈ l, ∀ s s' t, R s s' → step s a = .ok t → ∃ t', step s' a = .ok t' ∧ R t t')
    (hs : R s s') (h : l.foldlM step s = .ok t) : ∃ t', l.foldlM step s' = .ok t' ∧ R t t' := by
  induction l generalizing s s' with
  | nil =>
    obtain rfl : s = t := by simpa [pure, Except.pure] using h
    exact ⟨s', rfl, hs⟩
  | cons a l ih =>
    obtain ⟨ha, hl⟩ := List.forall_mem_cons.mp hstep
    rw [List.foldlM_cons, bind_ok] at h
    obtain ⟨next, hnext, h⟩ := h
    obtain ⟨next', hnext', hrel⟩ := ha s s' next hs hnext
    obtain ⟨t', ht', hrel'⟩ := ih hl hrel h
    exact ⟨t', by rw [List.foldlM_cons, bind_ok]; exact ⟨next', hnext', ht'⟩, hrel'⟩

/-- A fold fails where the first step fails that is reached. -/
lemma foldlM_error {step : σ → α → Except ε σ} {l : List α} {s : σ} {e : ε} :
    l.foldlM step s = .error e ↔ ∃ before a after t, l = before ++ a :: after ∧
      before.foldlM step s = .ok t ∧ step t a = .error e := by
  constructor
  · intro h
    induction l generalizing s with
    | nil => cases h
    | cons a l ih =>
      rw [List.foldlM_cons, bind_error] at h
      rcases h with h | ⟨next, hnext, h⟩
      · exact ⟨[], a, l, s, rfl, rfl, h⟩
      · obtain ⟨before, b, after, t, rfl, hbefore, hb⟩ := ih h
        refine ⟨a :: before, b, after, t, rfl, ?_, hb⟩
        rw [List.foldlM_cons, bind_ok]
        exact ⟨next, hnext, hbefore⟩
  · rintro ⟨before, a, after, t, rfl, hbefore, ha⟩
    rw [List.foldlM_append, bind_error]
    refine .inr ⟨t, hbefore, ?_⟩
    rw [List.foldlM_cons, bind_error]
    exact .inl ha

lemma exists_error_of_foldlM {step : σ → α → Except ε σ} {l : List α} {s : σ} {e : ε}
    (h : l.foldlM step s = .error e) : ∃ a ∈ l, ∃ t, step t a = .error e := by
  obtain ⟨before, a, after, t, rfl, -, ha⟩ := foldlM_error.mp h
  exact ⟨a, List.mem_append_right before List.mem_cons_self, t, ha⟩

end Armature.Attempts
