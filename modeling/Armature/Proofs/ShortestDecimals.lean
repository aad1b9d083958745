import Armature.Proofs.BinaryFloats

/-! The shortest decimal of a floating-point number rounds to that number, and to no other. -/

namespace Armature.Decimal

section Intervals

variable {b c : Binary} {q : ℚ}

lemma Binary.Regular.below_pos (hb : b.Regular) : 0 < b.below ∧ b.below ≤ 2 := by
  rw [hb.below_eq]
  split_ifs <;> decide

lemma Binary.Regular.quarters_ge (hb : b.Regular) (hexponent : b.exponent ≠ -1074) :
    (2 : ℚ) ^ 54 - 1 ≤ 4 * b.mantissa - b.below := by
  have hfull : leadingBit ≤ b.mantissa := hb.full.resolve_right hexponent
  have h : 2 ^ 54 + b.below ≤ 4 * b.mantissa + 1 := by
    rw [hb.below_eq]
    rw [leadingBit] at hfull ⊢
    split_ifs <;> omega
  have h' : ((2 ^ 54 + b.below : ℕ) : ℚ) ≤ (4 * b.mantissa + 1 : ℕ) := by exact_mod_cast h
  push_cast at h'
  linarith

/-- The larger of two exponents comes with a full mantissa, and the largest mantissa is odd. -/
lemma Binary.RoundsTo.exponent_ge (hb : b.Regular) (hc : c.Regular) (hbq : b.RoundsTo q)
    (hcq : c.RoundsTo q) : c.exponent ≤ b.exponent := by
  by_contra hlt
  have hleast := hb.exponent_ge
  have hlow := hc.quarters_ge (by omega)
  have hunit : (0 : ℚ) < 2 ^ (b.exponent - 2) := by positivity
  have hstep : 2 * (2 : ℚ) ^ (b.exponent - 2) ≤ 2 ^ (c.exponent - 2) := by
    rw [← zpow_one_add₀ two_ne_zero]
    exact zpow_le_zpow_right₀ one_le_two (by omega)
  -- the number is at the upper end of what the smaller exponent reaches
  have hq : ((2 : ℚ) ^ 55 - 2) * 2 ^ (b.exponent - 2) ≤ q := by
    refine le_trans ?_ hcq.low
    nlinarith
  have hmantissa := hb.mantissa_lt
  rw [leadingBit] at hmantissa
  by_cases hlargest : b.mantissa = 2 ^ 53 - 1
  · have hhigh := (hbq.inside (by rw [hlargest]; rfl)).2
    rw [hlargest] at hhigh
    norm_num at hhigh hq
    linarith
  · have hmantissa' : (b.mantissa : ℚ) ≤ 2 ^ 53 - 2 := by
      have h : b.mantissa + 2 ≤ 2 ^ 53 := by omega
      have h' : ((b.mantissa + 2 : ℕ) : ℚ) ≤ 2 ^ 53 := by exact_mod_cast h
      push_cast at h'
      linarith
    have hhigh := hbq.high
    nlinarith

lemma Binary.RoundsTo.mantissa_le (hb : b.Regular) (hexponent : b.exponent = c.exponent)
    (hbq : b.RoundsTo q) (hcq : c.RoundsTo q) : b.mantissa ≤ c.mantissa := by
  by_contra hlt
  have hunit : (0 : ℚ) < 2 ^ (b.exponent - 2) := by positivity
  have hbelow : (b.below : ℚ) ≤ 2 := by exact_mod_cast hb.below_pos.2
  have hmantissa : (c.mantissa : ℚ) + 1 ≤ b.mantissa := by
    have h : c.mantissa + 1 ≤ b.mantissa := by omega
    exact_mod_cast h
  have hlow := hbq.low
  have hhigh := hcq.high
  rw [← hexponent] at hhigh
  obtain hpar | hpar := Nat.mod_two_eq_zero_or_one b.mantissa
  · obtain hpar' | hpar' := Nat.mod_two_eq_zero_or_one c.mantissa
    · have hmantissa' : (c.mantissa : ℚ) + 2 ≤ b.mantissa := by
        have h : c.mantissa + 2 ≤ b.mantissa := by omega
        exact_mod_cast h
      nlinarith
    · have hhigh' := (hcq.inside hpar').2
      rw [← hexponent] at hhigh'
      nlinarith
  · have hlow' := (hbq.inside hpar).1
    nlinarith

theorem Binary.RoundsTo.unique (hb : b.Regular) (hc : c.Regular) (hbq : b.RoundsTo q)
    (hcq : c.RoundsTo q) : b = c := by
  have hexponent : b.exponent = c.exponent :=
    le_antisymm (hcq.exponent_ge hc hb hbq) (hbq.exponent_ge hb hc hcq)
  have hmantissa : b.mantissa = c.mantissa :=
    le_antisymm (hbq.mantissa_le hb hexponent hcq) (hcq.mantissa_le hc hexponent.symm hbq)
  have hbelow : b.below = c.below := by rw [hb.below_eq, hc.below_eq, hmantissa, hexponent]
  cases b
  cases c
  simp_all

end Intervals

section Quotients

lemma quotient_pos (a : ℕ) (e t : ℤ) : 0 < (quotient a e t).2 := by
  rw [quotient]
  exact Nat.mul_pos (Nat.pow_pos two_pos) (Nat.pow_pos (by decide))

lemma quotient_eq (a : ℕ) (e t : ℤ) :
    ((quotient a e t).1 : ℚ) = a * 2 ^ e * 10 ^ t * (quotient a e t).2 := by
  have hsplit {x : ℚ} (hx : x ≠ 0) (k : ℤ) : x ^ k * x ^ (-k).toNat = x ^ k.toNat := by
    rw [← zpow_natCast, ← zpow_natCast, ← zpow_add₀ hx]
    congr 1
    omega
  have h2 := hsplit (x := 2) two_ne_zero e
  have h10 := hsplit (x := 10) (by norm_num) t
  change ((a * 2 ^ e.toNat * 10 ^ t.toNat : ℕ) : ℚ) =
    a * 2 ^ e * 10 ^ t * ((2 ^ (-e).toNat * 10 ^ (-t).toNat : ℕ) : ℚ)
  push_cast
  rw [← h2, ← h10]
  ring

/-- The units in which the multiples of a power of ten are compared with a number. -/
def Binary.unit (b : Binary) (t : ℤ) : ℕ := (quotient 1 (b.exponent - 2) (-t)).2

/-- A quarter of the distance to the next number. -/
def Binary.step (b : Binary) (t : ℤ) : ℕ := (quotient 1 (b.exponent - 2) (-t)).1

lemma quotient_mul (a : ℕ) (e t : ℤ) :
    quotient a e t = (a * (quotient 1 e t).1, (quotient 1 e t).2) := by
  rw [quotient, quotient, one_mul, mul_assoc]

variable {b : Binary} {t : ℤ}

lemma Binary.unit_pos (b : Binary) (t : ℤ) : 0 < b.unit t := quotient_pos _ _ _

lemma Binary.step_pos (b : Binary) (t : ℤ) : 0 < b.step t := by
  change 0 < 1 * Nat.pow 2 _ * Nat.pow 10 _
  rw [one_mul]
  exact Nat.mul_pos (Nat.pow_pos two_pos) (Nat.pow_pos (by decide))

lemma Binary.step_eq (b : Binary) (t : ℤ) :
    (2 : ℚ) ^ (b.exponent - 2) * b.unit t = b.step t * 10 ^ t := by
  have h := quotient_eq 1 (b.exponent - 2) (-t)
  rw [Binary.step, h, zpow_neg, Binary.unit]
  field_simp
  push_cast
  ring

lemma Binary.roundsTo_multiple (b : Binary) (t : ℤ) (n : ℕ) : b.RoundsTo (n * 10 ^ t) ↔
    4 * b.mantissa * b.step t ≤ n * b.unit t + b.below * b.step t ∧
      n * b.unit t ≤ 4 * b.mantissa * b.step t + 2 * b.step t ∧
      (b.mantissa % 2 = 1 → 4 * b.mantissa * b.step t < n * b.unit t + b.below * b.step t ∧
        n * b.unit t < 4 * b.mantissa * b.step t + 2 * b.step t) := by
  have hunit : (0 : ℚ) < b.unit t := by exact_mod_cast b.unit_pos t
  have hten : (0 : ℚ) < 10 ^ t := by positivity
  -- both sides times the unit are whole numbers
  have hscale (x : ℚ) : x * 2 ^ (b.exponent - 2) * b.unit t = x * b.step t * 10 ^ t := by
    rw [mul_assoc, b.step_eq, mul_assoc]
  have hscale' : (n : ℚ) * 10 ^ t * b.unit t = n * b.unit t * 10 ^ t := mul_right_comm ..
  have hle (x : ℚ) : x * 2 ^ (b.exponent - 2) ≤ n * 10 ^ t ↔ x * b.step t ≤ n * b.unit t := by
    rw [← mul_le_mul_iff_left₀ hunit, hscale, hscale', mul_le_mul_iff_left₀ hten]
  have hge (x : ℚ) : n * 10 ^ t ≤ x * 2 ^ (b.exponent - 2) ↔ n * b.unit t ≤ x * b.step t := by
    rw [← mul_le_mul_iff_left₀ hunit, hscale, hscale', mul_le_mul_iff_left₀ hten]
  have hlow : (4 * b.mantissa - b.below : ℚ) * b.step t ≤ n * b.unit t ↔
      4 * b.mantissa * b.step t ≤ n * b.unit t + b.below * b.step t := by
    rw [sub_mul, sub_le_iff_le_add]
    exact_mod_cast Iff.rfl
  have hhigh : (n : ℚ) * b.unit t ≤ (4 * b.mantissa + 2) * b.step t ↔
      n * b.unit t ≤ 4 * b.mantissa * b.step t + 2 * b.step t := by
    rw [add_mul]
    exact_mod_cast Iff.rfl
  have hlow' : (4 * b.mantissa - b.below : ℚ) * b.step t < n * b.unit t ↔
      4 * b.mantissa * b.step t < n * b.unit t + b.below * b.step t := by
    rw [sub_mul, sub_lt_iff_lt_add]
    exact_mod_cast Iff.rfl
  have hhigh' : (n : ℚ) * b.unit t < (4 * b.mantissa + 2) * b.step t ↔
      n * b.unit t < 4 * b.mantissa * b.step t + 2 * b.step t := by
    rw [add_mul]
    exact_mod_cast Iff.rfl
  rw [← hlow, ← hhigh, ← hlow', ← hhigh', ← hle, ← hge, ← not_le (a := (n : ℚ) * b.unit t), ← hge,
    ← not_le (b := (n : ℚ) * b.unit t), ← hle, not_le, not_le]
  exact ⟨fun h => ⟨h.low, h.high, h.inside⟩, fun h => ⟨h.1, h.2.1, h.2.2⟩⟩

end Quotients

section Candidates

variable {b : Binary} {t : ℤ} {tie : Tie}

/-- The multiple of a power of ten that is next to a number and not above it. -/
def Binary.lower (b : Binary) (t : ℤ) : ℕ := 4 * b.mantissa * b.step t / b.unit t

lemma Binary.lower_le (b : Binary) (t : ℤ) : b.lower t * b.unit t ≤ 4 * b.mantissa * b.step t :=
  Nat.div_mul_le_self _ _

lemma Binary.lt_upper (b : Binary) (t : ℤ) :
    4 * b.mantissa * b.step t < (b.lower t + 1) * b.unit t := by
  rw [mul_comm (b.lower t + 1)]
  exact Nat.lt_mul_div_succ _ (b.unit_pos t)

/-- What the search asks about the distance to a candidate. -/
def Binary.reaches (b : Binary) (gap reach : ℕ) : Bool :=
  gap < reach || (gap == reach && b.mantissa % 2 == 0)

lemma Binary.reaches_iff {gap reach : ℕ} : b.reaches gap reach = true ↔
    gap ≤ reach ∧ (b.mantissa % 2 = 1 → gap < reach) := by
  rw [Binary.reaches, Bool.or_eq_true, Bool.and_eq_true, decide_eq_true_eq, beq_iff_eq, beq_iff_eq]
  omega

lemma Binary.reaches_lower (b : Binary) (t : ℤ) :
    b.reaches (4 * b.mantissa * b.step t - b.lower t * b.unit t) (b.below * b.step t) = true ↔
      b.RoundsTo (b.lower t * 10 ^ t) := by
  have hstep := b.step_pos t
  have hlower := b.lower_le t
  rw [Binary.reaches_iff, b.roundsTo_multiple]
  omega

lemma Binary.reaches_upper (b : Binary) (t : ℤ) :
    b.reaches ((b.lower t + 1) * b.unit t - 4 * b.mantissa * b.step t) (2 * b.step t) = true ↔
      b.RoundsTo ((b.lower t + 1 : ℕ) * 10 ^ t) := by
  have hupper := b.lt_upper t
  rw [Binary.reaches_iff, b.roundsTo_multiple]
  omega

lemma Binary.nearestMultiple?_eq (b : Binary) (tie : Tie) (t : ℤ) : b.nearestMultiple? tie t =
    let gapDown := 4 * b.mantissa * b.step t - b.lower t * b.unit t
    let gapUp := (b.lower t + 1) * b.unit t - 4 * b.mantissa * b.step t
    match b.reaches gapDown (b.below * b.step t), b.reaches gapUp (2 * b.step t) with
    | false, false => none
    | true, false => some (b.lower t)
    | false, true => some (b.lower t + 1)
    | true, true =>
      if gapDown < gapUp then some (b.lower t)
      else if gapUp < gapDown then some (b.lower t + 1)
      else
        match tie with
        | .even => some (if b.lower t % 2 = 0 then b.lower t else b.lower t + 1)
        | .up => some (b.lower t + 1) := by
  rw [Binary.nearestMultiple?, quotient_mul (4 * b.mantissa)]
  rfl

lemma Binary.eq_lower_or_upper {n : ℕ} (h : b.nearestMultiple? tie t = some n) :
    n = b.lower t ∨ n = b.lower t + 1 := by
  rw [Binary.nearestMultiple?_eq] at h
  dsimp only at h
  split at h
  · cases h
  · exact .inl (Option.some.inj h).symm
  · exact .inr (Option.some.inj h).symm
  · split_ifs at h <;> cases tie <;> cases h <;> simp

lemma Binary.roundsTo_of_nearestMultiple {n : ℕ} (h : b.nearestMultiple? tie t = some n) :
    b.RoundsTo (n * 10 ^ t) := by
  have hlower := b.reaches_lower t
  have hupper := b.reaches_upper t
  have hn := Binary.eq_lower_or_upper h
  rw [Binary.nearestMultiple?_eq] at h
  dsimp only at h
  split at h
  · cases h
  · next h₁ _ => cases h; exact hlower.mp h₁
  · next _ h₂ => cases h; exact hupper.mp h₂
  · next h₁ h₂ =>
    rcases hn with rfl | rfl
    · exact hlower.mp h₁
    · exact hupper.mp h₂

lemma Binary.not_roundsTo_of_nearestMultiple (h : b.nearestMultiple? tie t = none) (n : ℕ) :
    ¬ b.RoundsTo (n * 10 ^ t) := by
  intro hn
  have hlower := b.lower_le t
  have hupper := b.lt_upper t
  obtain ⟨hlow, hhigh, hodd⟩ := (b.roundsTo_multiple t n).mp hn
  have hneither : ¬ b.RoundsTo (b.lower t * 10 ^ t) ∧ ¬ b.RoundsTo ((b.lower t + 1 : ℕ) * 10 ^ t) := by
    rw [← b.reaches_lower, ← b.reaches_upper]
    rw [Binary.nearestMultiple?_eq] at h
    dsimp only at h
    split at h
    · next h₁ h₂ => simp [h₁, h₂]
    · cases h
    · cases h
    · split_ifs at h <;> cases tie <;> cases h
  rcases Nat.lt_or_ge (b.lower t) n with hlt | hge
  · have hmul : (b.lower t + 1) * b.unit t ≤ n * b.unit t := Nat.mul_le_mul_right _ hlt
    exact hneither.2 ((b.roundsTo_multiple t _).mpr (by omega))
  · have hmul : n * b.unit t ≤ b.lower t * b.unit t := Nat.mul_le_mul_right _ hge
    have hstep := b.step_pos t
    exact hneither.1 ((b.roundsTo_multiple t _).mpr (by omega))

end Candidates

section Leading

lemma guess_of_nonneg : ∀ k < 1024, 10 ^ (k * 30103 / 100000) ≤ 10 * 2 ^ k ∧
    2 ^ (k + 1) ≤ 10 ^ (k * 30103 / 100000 + 2) := by
  decide +kernel

lemma guess_of_neg : ∀ k < 1075, 2 ^ k ≤ 10 ^ ((k * 30103 + 99999) / 100000 + 1) ∧
    10 ^ ((k * 30103 + 99999) / 100000) * 2 ≤ 100 * 2 ^ k := by
  decide +kernel

/-- The exponent of ten that goes with an exponent of two is guessed right up to one. -/
lemma guess_near {k : ℤ} (hlow : -1074 ≤ k) (hhigh : k ≤ 1023) :
    (10 : ℚ) ^ (k * 30103 / 100000 - 1) ≤ 2 ^ k ∧
      (2 : ℚ) ^ (k + 1) ≤ 10 ^ (k * 30103 / 100000 + 2) := by
  obtain ⟨n, rfl | rfl⟩ := Int.eq_nat_or_neg k
  · obtain ⟨hlow, hhigh⟩ := guess_of_nonneg n (by omega)
    have hguess : (n : ℤ) * 30103 / 100000 = (n * 30103 / 100000 : ℕ) := by norm_num
    rw [hguess]
    constructor
    · have hlow' : (10 : ℚ) ^ (n * 30103 / 100000) ≤ 10 * 2 ^ n := by exact_mod_cast hlow
      rw [zpow_sub_one₀ (by norm_num), zpow_natCast, zpow_natCast]
      linarith
    · exact_mod_cast hhigh
  · obtain ⟨hlow, hhigh⟩ := guess_of_neg n (by omega)
    have hguess : -(n : ℤ) * 30103 / 100000 = -((n * 30103 + 99999) / 100000 : ℕ) := by omega
    rw [hguess]
    generalize (n * 30103 + 99999) / 100000 = g at *
    have hlow' : (2 : ℚ) ^ n ≤ 10 ^ g * 10 := by rw [← pow_succ]; exact_mod_cast hlow
    have hhigh' : (10 : ℚ) ^ g * 2 ≤ 100 * 2 ^ n := by exact_mod_cast hhigh
    have htwo : (0 : ℚ) < 2 ^ n := by positivity
    have hten : (0 : ℚ) < 10 ^ g := by positivity
    constructor
    · rw [zpow_sub_one₀ (by norm_num), zpow_neg, zpow_neg, zpow_natCast, zpow_natCast, ← mul_inv]
      exact inv_anti₀ htwo hlow'
    · rw [zpow_add₀ (by norm_num), zpow_add₀ (by norm_num), zpow_neg, zpow_neg, zpow_natCast, zpow_natCast,
        inv_mul_le_iff₀ htwo, zpow_one, mul_comm, mul_assoc, inv_mul_eq_div, le_div_iff₀ hten]
      norm_num
      linarith

def Binary.value (b : Binary) : ℚ := b.mantissa * 2 ^ b.exponent

lemma Binary.value_eq (b : Binary) : b.value = 4 * b.mantissa * 2 ^ (b.exponent - 2) := by
  rw [Binary.value, zpow_sub₀ two_ne_zero]
  norm_num
  ring

variable {b : Binary}

lemma unit_le_iff (b : Binary) (k : ℤ) :
    (quotient b.mantissa b.exponent (-k)).2 ≤ (quotient b.mantissa b.exponent (-k)).1 ↔
      (10 : ℚ) ^ k ≤ b.value := by
  have hunit : (0 : ℚ) < (quotient b.mantissa b.exponent (-k)).2 := by
    exact_mod_cast quotient_pos _ _ _
  have hten : (0 : ℚ) < 10 ^ k := by positivity
  have hquotient := quotient_eq b.mantissa b.exponent (-k)
  rw [← Nat.cast_le (α := ℚ), hquotient, le_mul_iff_one_le_left hunit, zpow_neg,
    ← div_eq_mul_inv, one_le_div hten, Binary.value]

lemma Binary.value_near (hpos : 0 < b.mantissa) :
    (2 : ℚ) ^ (b.exponent + b.mantissa.log2) ≤ b.value ∧
      b.value < 2 ^ (b.exponent + b.mantissa.log2 + 1) := by
  have hlow : ((2 ^ b.mantissa.log2 : ℕ) : ℚ) ≤ b.mantissa := by
    exact_mod_cast Nat.log2_self_le hpos.ne'
  have hhigh : (b.mantissa : ℚ) < (2 ^ (b.mantissa.log2 + 1) : ℕ) := by
    exact_mod_cast Nat.lt_log2_self
  have hunit : (0 : ℚ) < 2 ^ b.exponent := by positivity
  push_cast at hlow hhigh
  constructor
  · rw [add_comm, zpow_add₀ two_ne_zero, zpow_natCast]
    exact mul_le_mul_of_nonneg_right hlow hunit.le
  · rw [add_assoc, add_comm, zpow_add₀ two_ne_zero, ← Nat.cast_succ, zpow_natCast]
    exact mul_lt_mul_of_pos_right hhigh hunit

lemma Binary.leadingExponent_spec (hb : b.Regular) (hpos : 0 < b.mantissa) :
    (10 : ℚ) ^ b.leadingExponent ≤ b.value ∧ b.value < 10 ^ (b.leadingExponent + 1) := by
  have hlog : b.mantissa.log2 < 53 := (Nat.log2_lt hpos.ne').mpr hb.mantissa_lt
  have hlow := hb.exponent_ge
  have hhigh := hb.exponent_le
  obtain ⟨hguess, hguess'⟩ :=
    guess_near (k := b.exponent + b.mantissa.log2) (by omega) (by omega)
  obtain ⟨hvalue, hvalue'⟩ := b.value_near hpos
  simp only [Binary.leadingExponent, decide_eq_true_eq, unit_le_iff]
  generalize (b.exponent + b.mantissa.log2) * 30103 / 100000 = guess at *
  split_ifs with hnext hguessed
  · exact ⟨hnext, hvalue'.trans_le (by rwa [show guess + 1 + 1 = guess + 2 by ring])⟩
  · exact ⟨hguessed, not_le.mp hnext⟩
  · exact ⟨hguess.trans hvalue, by rw [sub_add_cancel]; exact not_le.mp hguessed⟩

end Leading

section Search

variable {b : Binary} {tie : Tie}

lemma Binary.width_le {t : ℤ} (h : b.nearestMultiple? tie t = none) :
    (2 + b.below) * (2 : ℚ) ^ (b.exponent - 2) ≤ 10 ^ t := by
  have hnone := b.not_roundsTo_of_nearestMultiple h
  have hlower := hnone (b.lower t)
  have hupper := hnone (b.lower t + 1)
  have hstep := b.step_pos t
  have hle := b.lower_le t
  have hlt := b.lt_upper t
  rw [b.roundsTo_multiple] at hlower hupper
  have hwidth : (2 + b.below) * b.step t ≤ b.unit t := by
    have hnext : (b.lower t + 1) * b.unit t = b.lower t * b.unit t + b.unit t := by ring
    have hsum : (2 + b.below) * b.step t = 2 * b.step t + b.below * b.step t := by ring
    omega
  have hwidth' : (2 + b.below : ℚ) * b.step t ≤ b.unit t := by exact_mod_cast hwidth
  have hunits := b.step_eq t
  have hstep' : (0 : ℚ) < b.step t := by exact_mod_cast hstep
  have hquarter : (0 : ℚ) < 2 ^ (b.exponent - 2) := by positivity
  nlinarith

/-- The numbers with a full mantissa are less than seventeen digits apart. -/
lemma Binary.seventeen_digits (hb : b.Regular) (hpos : 0 < b.mantissa) :
    b.nearestMultiple? tie (b.leadingExponent - 16) ≠ none := by
  intro hnone
  have hwidth := b.width_le hnone
  have hleading := (b.leadingExponent_spec hb hpos).1
  have hquarter : (0 : ℚ) < 2 ^ (b.exponent - 2) := by positivity
  have hten : (10 : ℚ) ^ b.leadingExponent = 10 ^ (b.leadingExponent - 16) * 10 ^ 16 := by
    rw [zpow_sub₀ (by norm_num)]
    norm_num
  rw [hten, b.value_eq] at hleading
  have hbound : (2 + b.below : ℚ) * 10 ^ 16 ≤ 4 * b.mantissa := by
    by_contra hlt
    nlinarith
  have hbound' : (2 + b.below) * 10 ^ 16 ≤ 4 * b.mantissa := by exact_mod_cast hbound
  have hmantissa := hb.mantissa_lt
  rw [leadingBit] at hmantissa
  rw [hb.below_eq, leadingBit] at hbound'
  split_ifs at hbound' <;> omega

lemma Binary.search_spec {leading : ℤ} {digits grids : ℕ}
    (h : ∃ k < grids, b.nearestMultiple? tie (leading - (digits + k : ℕ) + 1) ≠ none) :
    ∃ k n, b.search tie leading digits grids = ⟨n, leading - (digits + k : ℕ) + 1⟩ ∧
      b.nearestMultiple? tie (leading - (digits + k : ℕ) + 1) = some n ∧
      ∀ j < k, b.nearestMultiple? tie (leading - (digits + j : ℕ) + 1) = none := by
  induction grids generalizing digits with
  | zero => simp at h
  | succ grids ih =>
    rw [Binary.search]
    cases hfirst : b.nearestMultiple? tie (leading - digits + 1) with
    | some n => exact ⟨0, n, rfl, hfirst, by simp⟩
    | none =>
      -- nothing on the first grid, so that there is something on a later one
      have hlater :
          ∃ k < grids, b.nearestMultiple? tie (leading - (digits + 1 + k : ℕ) + 1) ≠ none := by
        obtain ⟨k, hk, hsome⟩ := h
        cases k with
        | zero => exact (hsome hfirst).elim
        | succ k => exact ⟨k, by omega, by rwa [add_right_comm]⟩
      obtain ⟨k, n, hsearch, hsome, hnone⟩ := ih hlater
      refine ⟨k + 1, n, ?_, ?_, fun j hj => ?_⟩
      · rw [hsearch, add_right_comm, add_assoc]
      · rwa [← add_assoc, add_right_comm]
      · cases j with
        | zero => exact hfirst
        | succ j =>
          rw [← add_assoc, add_right_comm]
          exact hnone j (by omega)

/-- Nothing on the grids before the first one on which something is found. -/
def Binary.Barren (b : Binary) (k : ℕ) : Prop :=
  ∀ j < k, ∀ m : ℕ, ¬ b.RoundsTo (m * 10 ^ (b.leadingExponent - j))

/-- The search finds the first grid that has something to find. -/
lemma Binary.search_first (hb : b.Regular) (hpos : 0 < b.mantissa) (tie : Tie) :
    ∃ k n : ℕ, b.search tie b.leadingExponent 1 17 = ⟨n, b.leadingExponent - k⟩ ∧
      b.nearestMultiple? tie (b.leadingExponent - k) = some n ∧ b.Barren k := by
  have hgrid (k : ℕ) : b.leadingExponent - (1 + k : ℕ) + 1 = b.leadingExponent - k := by
    push_cast
    ring
  have hlast := @Binary.seventeen_digits b tie hb hpos
  obtain ⟨k, n, hsearch, hsome, hnone⟩ := @Binary.search_spec b tie b.leadingExponent 1 17
    ⟨16, by decide, by rw [hgrid]; exact hlast⟩
  refine ⟨k, n, by rw [hsearch, hgrid], by rw [← hgrid]; exact hsome, fun j hj m => ?_⟩
  have h := Binary.not_roundsTo_of_nearestMultiple (hnone j hj) m
  rwa [hgrid] at h

end Search

section Shortest

def value (d : Decimal) : ℚ := d.digits * 10 ^ d.exponent

lemma value_strip (d : Decimal) : (strip d).value = d.value := by
  induction d using strip.induct with
  | case1 d h ih =>
    have hdigits : (d.digits : ℚ) = (d.digits / 10 : ℕ) * 10 := by
      exact_mod_cast (Nat.div_mul_cancel (Nat.dvd_of_mod_eq_zero h.2)).symm
    rw [strip, dif_pos h, ih, value, value, zpow_add_one₀ (by norm_num), hdigits]
    ring
  | case2 d h => rw [strip, dif_neg h]

lemma digits_strip {d : Decimal} (hd : d.digits ≠ 0) : (strip d).digits % 10 ≠ 0 := by
  induction d using strip.induct with
  | case1 d h ih =>
    rw [strip, dif_pos h]
    exact ih (by dsimp only; omega)
  | case2 d h =>
    rw [strip, dif_neg h]
    exact fun hmod => h ⟨hd, hmod⟩

variable {b : Binary} {x : Float} {q : ℚ}

lemma Binary.RoundsTo.pos (hb : b.Regular) (hpos : 0 < b.mantissa) (h : b.RoundsTo q) : 0 < q := by
  have hbelow : (b.below : ℚ) ≤ 2 := by exact_mod_cast hb.below_pos.2
  have hmantissa : (1 : ℚ) ≤ b.mantissa := by exact_mod_cast hpos
  have hunit : (0 : ℚ) < 2 ^ (b.exponent - 2) := by positivity
  have hlow := h.low
  nlinarith

lemma mantissa_pos (hzero : (x == 0) = false) : 0 < (Binary.ofFloat x).mantissa := by
  rw [Nat.pos_iff_ne_zero, ne_eq, mantissa_eq_zero, hzero]
  exact Bool.false_ne_true

theorem roundsTo_shortest (tie : Tie) (hx : x.isFinite = true) (hzero : (x == 0) = false) :
    (Binary.ofFloat x).RoundsTo (shortest tie x).value ∧ (shortest tie x).digits % 10 ≠ 0 := by
  have hb := regular_ofFloat hx
  have hpos := mantissa_pos hzero
  obtain ⟨k, n, hsearch, hsome, -⟩ := Binary.search_first hb hpos tie
  have hrounds := Binary.roundsTo_of_nearestMultiple hsome
  have hn : n ≠ 0 := by
    rintro rfl
    have h := hrounds.pos hb hpos
    simp at h
  rw [shortest, if_neg hpos.ne', hsearch, value_strip]
  exact ⟨hrounds, digits_strip hn⟩

lemma roundsTo_zero_iff (hx : x.isFinite = true) :
    (Binary.ofFloat x).RoundsTo 0 ↔ (x == 0) = true := by
  have hb := regular_ofFloat hx
  rw [← mantissa_eq_zero]
  constructor
  · intro h
    by_contra hne
    exact lt_irrefl _ (h.pos hb (Nat.pos_of_ne_zero hne))
  · intro h
    exact Binary.roundsTo_self hb.below_pos.1 (by rw [h]; simp)

/-- Floating-point numbers of one sign that the same number rounds to are the same. -/
theorem eq_of_roundsTo {y : Float} (hx : x.isFinite = true) (hy : y.isFinite = true)
    (hsign : signField x = signField y) (hxq : (Binary.ofFloat x).RoundsTo q)
    (hyq : (Binary.ofFloat y).RoundsTo q) : x = y :=
  eq_of_ofFloat (hxq.unique (regular_ofFloat hx) (regular_ofFloat hy) hyq) hsign

end Shortest

end Armature.Decimal
