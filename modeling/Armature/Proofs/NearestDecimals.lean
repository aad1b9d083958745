import Armature.Proofs.NumberTexts

/-! The shortest decimal of a number has the fewest digits of those that round to the number, and of
those with as few digits it is the nearest. -/

namespace Armature.Decimal

section Distances

variable {b : Binary} {t : ℤ} {tie : Tie} {n n' : ℕ} {p q r : ℚ}

lemma Binary.RoundsTo.between (hp : b.RoundsTo p) (hr : b.RoundsTo r) (hpq : p ≤ q) (hqr : q ≤ r) :
    b.RoundsTo q where
  low := hp.low.trans hpq
  high := hqr.trans hr.high
  inside h := ⟨(hp.inside h).1.trans_le hpq, hqr.trans_lt (hr.inside h).2⟩

/-- How far a multiple of a power of ten is from a number, in the units of that power. -/
def Binary.gap (b : Binary) (t : ℤ) (n : ℕ) : ℕ :=
  ((n * b.unit t : ℕ) - (4 * b.mantissa * b.step t : ℕ) : ℤ).natAbs

lemma Binary.gap_eq (b : Binary) (t : ℤ) (n : ℕ) :
    |n * 10 ^ t - b.value| * b.unit t = b.gap t n * 10 ^ t := by
  have hten : (0 : ℚ) < 10 ^ t := by positivity
  have hunit : (0 : ℚ) < b.unit t := by exact_mod_cast b.unit_pos t
  have hgap : (b.gap t n : ℚ) = |(n * b.unit t - 4 * b.mantissa * b.step t : ℚ)| := by
    rw [Binary.gap, Nat.cast_natAbs]
    push_cast
    rfl
  have hdistance : (n * 10 ^ t - b.value) * b.unit t =
      (n * b.unit t - 4 * b.mantissa * b.step t) * 10 ^ t := by
    rw [b.value_eq, sub_mul, mul_assoc (4 * b.mantissa : ℚ), b.step_eq]
    ring
  rw [hgap, ← abs_of_pos hten, ← abs_mul, abs_of_pos hten, ← hdistance, abs_mul, abs_of_pos hunit]

lemma Binary.gap_le_iff : |(n : ℚ) * 10 ^ t - b.value| ≤ |n' * 10 ^ t - b.value| ↔
    b.gap t n ≤ b.gap t n' := by
  have hten : (0 : ℚ) < 10 ^ t := by positivity
  have hunit : (0 : ℚ) < b.unit t := by exact_mod_cast b.unit_pos t
  rw [← mul_le_mul_iff_left₀ hunit, b.gap_eq, b.gap_eq, mul_le_mul_iff_left₀ hten, Nat.cast_le]

/-- Which of two decimals that are equally near is taken. -/
def Tie.Takes (d d' : Decimal) : Tie → Prop
  | .even => d.digits % 2 = 0
  | .up => d'.value < d.value

lemma Binary.gap_lower (b : Binary) (t : ℤ) :
    b.gap t (b.lower t) = 4 * b.mantissa * b.step t - b.lower t * b.unit t := by
  have hlower := b.lower_le t
  rw [Binary.gap]
  omega

lemma Binary.gap_upper (b : Binary) (t : ℤ) :
    b.gap t (b.lower t + 1) = (b.lower t + 1) * b.unit t - 4 * b.mantissa * b.step t := by
  have hupper := b.lt_upper t
  rw [Binary.gap]
  omega

lemma Binary.exists_neighbour (hn : b.RoundsTo (n * 10 ^ t)) :
    ∃ m, (m = b.lower t ∨ m = b.lower t + 1) ∧ b.RoundsTo (m * 10 ^ t) ∧
      (m = n ∨ b.gap t m < b.gap t n) := by
  have hlower := b.lower_le t
  have hupper := b.lt_upper t
  have hstep := b.step_pos t
  have hrounds := (b.roundsTo_multiple t n).mp hn
  obtain hlt | rfl | hgt := lt_trichotomy n (b.lower t)
  · have hmul := Nat.mul_lt_mul_of_pos_right hlt (b.unit_pos t)
    refine ⟨b.lower t, .inl rfl, (b.roundsTo_multiple t _).mpr (by omega), .inr ?_⟩
    rw [b.gap_lower, Binary.gap]
    omega
  · exact ⟨b.lower t, .inl rfl, hn, .inl rfl⟩
  · obtain rfl | hgt := eq_or_lt_of_le (Nat.succ_le_of_lt hgt)
    · exact ⟨b.lower t + 1, .inr rfl, hn, .inl rfl⟩
    · have hmul := Nat.mul_lt_mul_of_pos_right hgt (b.unit_pos t)
      refine ⟨b.lower t + 1, .inr rfl, (b.roundsTo_multiple t _).mpr ?_, .inr ?_⟩
      · rw [Nat.succ_eq_add_one] at hmul
        omega
      · rw [b.gap_upper, Binary.gap]
        rw [Nat.succ_eq_add_one] at hmul
        omega

lemma Binary.nearestMultiple_neighbour (h : b.nearestMultiple? tie t = some n)
    (hm : n' = b.lower t ∨ n' = b.lower t + 1) (hn' : b.RoundsTo (n' * 10 ^ t)) :
    b.gap t n ≤ b.gap t n' ∧ (b.gap t n = b.gap t n' → n = n' ∨ tie.Takes ⟨n, t⟩ ⟨n', t⟩) := by
  by_cases hnm : n = n'
  · exact ⟨by rw [hnm], fun _ => .inl hnm⟩
  have hn := Binary.roundsTo_of_nearestMultiple h
  have hneighbour := Binary.eq_lower_or_upper h
  have hlower := b.reaches_lower t
  have hupper := b.reaches_upper t
  rw [Binary.nearestMultiple?_eq, ← b.gap_lower, ← b.gap_upper] at h
  rw [← b.gap_lower] at hlower
  rw [← b.gap_upper] at hupper
  -- which of the two neighbours was taken, and with which one it is compared
  obtain rfl | rfl := hneighbour <;> obtain rfl | rfl := hm
  · exact absurd rfl hnm
  · simp only [hlower.mpr hn, hupper.mpr hn'] at h
    split_ifs at h with hdown hup hparity
    · exact ⟨hdown.le, fun heq => absurd heq hdown.ne⟩
    · simp at h
    · cases tie with
      | even => exact ⟨not_lt.mp hup, fun _ => .inr hparity⟩
      | up => simp at h
    · cases tie <;> simp at h
  · simp only [hlower.mpr hn', hupper.mpr hn] at h
    split_ifs at h with hdown hup hparity
    · simp at h
    · exact ⟨hup.le, fun heq => absurd heq hup.ne⟩
    · cases tie with
      | even => simp at h
      | up => exact ⟨not_lt.mp hdown, fun _ => .inr (mul_lt_mul_of_pos_right (by simp) (by positivity))⟩
    · refine ⟨not_lt.mp hdown, fun _ => .inr ?_⟩
      cases tie with
      | even => exact (by omega : (b.lower t + 1) % 2 = 0)
      | up => exact mul_lt_mul_of_pos_right (by simp) (by positivity)
  · exact absurd rfl hnm

lemma Binary.nearestMultiple_nearest (h : b.nearestMultiple? tie t = some n)
    (hn' : b.RoundsTo (n' * 10 ^ t)) :
    b.gap t n ≤ b.gap t n' ∧ (b.gap t n = b.gap t n' → n = n' ∨ tie.Takes ⟨n, t⟩ ⟨n', t⟩) := by
  obtain ⟨m, hm, hrounds, hnear⟩ := Binary.exists_neighbour hn'
  obtain ⟨hle, htie⟩ := Binary.nearestMultiple_neighbour h hm hrounds
  obtain rfl | hlt := hnear
  · exact ⟨hle, htie⟩
  · exact ⟨hle.trans hlt.le, fun heq => absurd heq (hle.trans_lt hlt).ne⟩

end Distances

section Normal

variable {d d' : Decimal}

lemma exponent_le_of_value (hd : d.digits % 10 ≠ 0) (h : d.value = d'.value) :
    d'.exponent ≤ d.exponent := by
  by_contra hlt
  obtain ⟨k, hk⟩ : ∃ k : ℕ, d'.exponent = d.exponent + (k + 1 : ℕ) :=
    ⟨(d'.exponent - d.exponent - 1).toNat, by omega⟩
  rw [value, value, hk, zpow_add₀ (by norm_num), zpow_natCast, mul_comm (10 ^ d.exponent), ← mul_assoc,
    mul_left_inj' (by positivity)] at h
  have hdigits : d.digits = d'.digits * 10 ^ (k + 1) := by exact_mod_cast h
  rw [hdigits, pow_succ, ← mul_assoc] at hd
  exact hd (Nat.mul_mod_left _ _)

lemma eq_of_value (hd : d.digits % 10 ≠ 0) (hd' : d'.digits % 10 ≠ 0) (h : d.value = d'.value) :
    d = d' := by
  have hexponent : d.exponent = d'.exponent :=
    le_antisymm (exponent_le_of_value hd' h.symm) (exponent_le_of_value hd h)
  rw [value, value, hexponent, mul_left_inj' (by positivity)] at h
  cases d
  cases d'
  simp_all

end Normal

section Shortest

variable {b : Binary} {d d' : Decimal} {tie : Tie} {x : Float} {k n : ℕ} {t : ℤ}

lemma exists_multiple (h : t ≤ d.exponent) : ∃ m : ℕ, d.value = m * 10 ^ t := by
  obtain ⟨k, hk⟩ : ∃ k : ℕ, d.exponent = t + k := ⟨(d.exponent - t).toNat, by omega⟩
  refine ⟨d.digits * 10 ^ k, ?_⟩
  rw [value, hk, zpow_add₀ (by norm_num), zpow_natCast]
  push_cast
  ring

lemma exponent_strip (d : Decimal) : d.exponent ≤ (strip d).exponent := by
  induction d using strip.induct with
  | case1 d h ih =>
    rw [strip, dif_pos h]
    exact (Int.le.intro 1 rfl).trans ih
  | case2 d h => rw [strip, dif_neg h]

lemma Binary.RoundsTo.digits_ne_zero (hb : b.Regular) (hpos : 0 < b.mantissa)
    (h : b.RoundsTo d.value) : d.digits ≠ 0 := by
  intro hzero
  have hvalue := h.pos hb hpos
  simp [Decimal.value, hzero] at hvalue

/-- A decimal that is too small for the first digit makes room for a power of ten. -/
lemma Binary.roundsTo_power (hb : b.Regular) (hpos : 0 < b.mantissa) (h : b.RoundsTo d.value)
    (hleading : d.leading < b.leadingExponent) :
    d.value < 10 ^ b.leadingExponent ∧ b.RoundsTo (10 ^ b.leadingExponent) := by
  have hvalue : d.value < 10 ^ b.leadingExponent :=
    (leading_spec (h.digits_ne_zero hb hpos)).2.trans_le
      (zpow_le_zpow_right₀ (by norm_num) (Int.add_one_le_of_lt hleading))
  have hself : b.RoundsTo b.value := Binary.roundsTo_self hb.below_pos.1 rfl
  exact ⟨hvalue, h.between hself hvalue.le (b.leadingExponent_spec hb hpos).1⟩

lemma Binary.lt_length (hb : b.Regular) (hpos : 0 < b.mantissa) (hbarren : b.Barren k)
    (h : b.RoundsTo d.value) : k < d.length := by
  by_contra hlength
  have hlength' := d.length_pos
  have hleading := d.leading_eq
  obtain hlt | hge := lt_or_ge d.leading b.leadingExponent
  · have hpower := (Binary.roundsTo_power hb hpos h hlt).2
    exact hbarren 0 (by omega) 1 (by simpa using hpower)
  · obtain ⟨m, hm⟩ := @exists_multiple d (b.leadingExponent - (d.length - 1 : ℕ)) (by omega)
    exact hbarren (d.length - 1) (by omega) m (hm ▸ h)

lemma Binary.value_mul (b : Binary) (t : ℤ) :
    b.value * b.unit t = (4 * b.mantissa * b.step t : ℕ) * 10 ^ t := by
  rw [b.value_eq, mul_assoc, b.step_eq]
  push_cast
  ring

lemma Binary.lower_value (b : Binary) (t : ℤ) :
    b.lower t * 10 ^ t ≤ b.value ∧ b.value < (b.lower t + 1 : ℕ) * 10 ^ t := by
  have hten : (0 : ℚ) < 10 ^ t := by positivity
  have hunit : (0 : ℚ) < b.unit t := by exact_mod_cast b.unit_pos t
  have hmultiple (n : ℕ) : (n : ℚ) * 10 ^ t * b.unit t = (n * b.unit t : ℕ) * 10 ^ t := by
    push_cast
    ring
  rw [← mul_le_mul_iff_left₀ hunit, ← mul_lt_mul_iff_left₀ hunit, b.value_mul, hmultiple, hmultiple,
    mul_le_mul_iff_left₀ hten, mul_lt_mul_iff_left₀ hten, Nat.cast_le, Nat.cast_lt]
  exact ⟨b.lower_le t, b.lt_upper t⟩

lemma Binary.lower_lt (hb : b.Regular) (hpos : 0 < b.mantissa) (k : ℕ) :
    b.lower (b.leadingExponent - k) < 10 ^ (k + 1) := by
  have hten : (0 : ℚ) < 10 ^ (b.leadingExponent - k) := by positivity
  have hlower := (b.lower_value (b.leadingExponent - k)).1
  have hvalue := hlower.trans_lt (b.leadingExponent_spec hb hpos).2
  have hsplit : (10 : ℚ) ^ (b.leadingExponent + 1) =
      (10 ^ (k + 1) : ℕ) * 10 ^ (b.leadingExponent - k) := by
    push_cast
    rw [← zpow_natCast, ← zpow_add₀ (by norm_num)]
    congr 1
    push_cast
    ring
  rw [hsplit, mul_lt_mul_iff_left₀ hten] at hvalue
  exact_mod_cast hvalue

lemma digits_strip_le (d : Decimal) : (strip d).digits ≤ d.digits := by
  induction d using strip.induct with
  | case1 d h ih =>
    rw [strip, dif_pos h]
    exact ih.trans (Nat.div_le_self _ _)
  | case2 d h => rw [strip, dif_neg h]

lemma length_strip_le (hn : n ≠ 0) (h : n ≤ 10 ^ (k + 1)) : (strip ⟨n, t⟩).length ≤ k + 1 := by
  obtain rfl | hlt := h.eq_or_lt
  · have hvalue : (strip ⟨10 ^ (k + 1), t⟩).value = (⟨1, t + (k + 1 : ℕ)⟩ : Decimal).value := by
      rw [value_strip, value, value, zpow_add₀ (by norm_num), zpow_natCast]
      push_cast
      ring
    rw [eq_of_value (digits_strip hn) (by simp) hvalue, length_le_iff (Nat.succ_pos k)]
    exact Nat.one_lt_pow (Nat.succ_ne_zero k) (by decide)
  · rw [length_le_iff (Nat.succ_pos k)]
    exact (digits_strip_le _).trans_lt hlt

/-- The decimal that stands for a number: of those that round to it one with the fewest digits, of
those with as few digits the nearest one, and of two that are as near the one that the tie takes. -/
structure Represents (tie : Tie) (b : Binary) (d : Decimal) : Prop where
  rounds : b.RoundsTo d.value
  fewest : ∀ d' : Decimal, b.RoundsTo d'.value → d.length ≤ d'.length
  nearest : ∀ d' : Decimal, b.RoundsTo d'.value → d'.length = d.length →
    |d.value - b.value| ≤ |d'.value - b.value|
  tied : ∀ d' : Decimal, b.RoundsTo d'.value → d'.length = d.length →
    |d.value - b.value| = |d'.value - b.value| → d.value = d'.value ∨ tie.Takes d d'

lemma Binary.five_dvd_step (ht : t < 0) : 5 ∣ b.step t ∧ ¬ 5 ∣ 19 * b.unit t := by
  have hstep : 5 ∣ 10 ^ (-t).toNat := dvd_pow (by decide) (by omega)
  have hunit : b.unit t = 2 ^ (-(b.exponent - 2)).toNat := by
    have hzero : (-(-t)).toNat = 0 := by omega
    rw [Binary.unit, quotient, hzero]
    exact mul_one _
  refine ⟨Dvd.dvd.mul_left hstep _, fun hdvd => ?_⟩
  rw [hunit] at hdvd
  obtain h | h := (Nat.Prime.dvd_mul (by decide)).mp hdvd
  · revert h
    decide
  · have htwo := Nat.Prime.dvd_of_dvd_pow (by decide) h
    revert htwo
    decide

lemma Binary.value_of_tie (h : 2 * (4 * b.mantissa * b.step t) = 19 * b.unit t) :
    2 * b.value = 19 * 10 ^ t := by
  have hunit : (0 : ℚ) < b.unit t := by exact_mod_cast b.unit_pos t
  have h' : (2 * (4 * b.mantissa * b.step t : ℕ) : ℚ) = 19 * b.unit t := by exact_mod_cast h
  have hscaled : 2 * b.value * b.unit t = 19 * 10 ^ t * b.unit t := by
    rw [mul_assoc, b.value_mul t, ← mul_assoc, h']
    ring
  exact mul_right_cancel₀ hunit.ne' hscaled

/-- Nine and a half is not between two decimals that round to one number. -/
lemma Binary.not_between_nine_and_ten (hb : b.Regular) (hnine : b.RoundsTo ((9 : ℕ) * 10 ^ t)) :
    2 * (4 * b.mantissa * b.step t) ≠ 19 * b.unit t := by
  intro htie
  obtain hneg | hnonneg := lt_or_ge t 0
  · obtain ⟨hstep, hunit⟩ := @Binary.five_dvd_step b t hneg
    exact hunit (htie ▸ Dvd.dvd.mul_left (Dvd.dvd.mul_left hstep _) _)
  have hvalue := Binary.value_of_tie htie
  have hbelow : (b.below : ℚ) ≤ 2 := by exact_mod_cast hb.below_pos.2
  have hquarter : (0 : ℚ) < 2 ^ (b.exponent - 2) := by positivity
  have hlow := hnine.low
  rw [b.value_eq] at hvalue
  push_cast at hlow
  have hnear : (10 : ℚ) ^ t ≤ 4 * 2 ^ (b.exponent - 2) := by nlinarith
  have hone : (1 : ℚ) ≤ 10 ^ t := one_le_zpow₀ (by norm_num) hnonneg
  -- so few steps to a number are only left below the first full mantissa
  have hsmall : (b.mantissa : ℚ) < 10 := by
    by_contra hlarge
    nlinarith
  have hsmall' : b.mantissa < 10 := by exact_mod_cast hsmall
  have hexponent := hb.full.resolve_left fun hfull => by
    rw [leadingBit] at hfull
    omega
  have htiny : (2 : ℚ) ^ (-1074 - 2 : ℤ) ≤ 2 ^ (-3 : ℤ) := zpow_le_zpow_right₀ one_le_two (by decide)
  have heighth : (2 : ℚ) ^ (-3 : ℤ) = 1 / 8 := by norm_num
  rw [hexponent] at hnear
  rw [heighth] at htiny
  generalize (2 : ℚ) ^ (-1074 - 2 : ℤ) = tiny at hnear htiny
  linarith

lemma Binary.eq_zero_of_barren (hbarren : b.Barren k)
    (h : b.RoundsTo (n * 10 ^ (b.leadingExponent - k))) (hten : n % 10 = 0) : k = 0 := by
  by_contra hk
  obtain ⟨c, rfl⟩ := Nat.dvd_of_mod_eq_zero hten
  -- the number without its last zero is on the grid before
  refine hbarren (k - 1) (by omega) c ?_
  have hpower : b.leadingExponent - (k - 1 : ℕ) = b.leadingExponent - k + 1 := by omega
  rw [hpower, zpow_add_one₀ (by norm_num)]
  convert h using 1
  push_cast
  ring

/-- A number between two multiples, of which one ends in a zero, is nearer to one of them. -/
lemma Binary.mod_ten_ne_zero (hb : b.Regular) (hpos : 0 < b.mantissa) (hbarren : b.Barren k) {m : ℕ}
    (h : b.nearestMultiple? tie (b.leadingExponent - k) = some n)
    (hm : b.RoundsTo (m * 10 ^ (b.leadingExponent - k)))
    (hgap : b.gap (b.leadingExponent - k) n = b.gap (b.leadingExponent - k) m) (hne : n ≠ m) :
    n % 10 ≠ 0 := by
  intro hten
  have hrounds := Binary.roundsTo_of_nearestMultiple h
  have hn : n ≠ 0 :=
    Binary.RoundsTo.digits_ne_zero (d := ⟨n, b.leadingExponent - k⟩) hb hpos hrounds
  obtain rfl := Binary.eq_zero_of_barren hbarren hrounds hten
  -- of numbers with one digit and their neighbours only ten ends in a zero
  have hnine : b.lower (b.leadingExponent - (0 : ℕ)) = 9 ∧ n = 10 := by
    have hlower := Binary.lower_lt hb hpos 0
    have hn' := Binary.eq_lower_or_upper h
    omega
  obtain ⟨hnine, rfl⟩ := hnine
  have hlow := b.lower_le (b.leadingExponent - (0 : ℕ))
  have hhigh := b.lt_upper (b.leadingExponent - (0 : ℕ))
  rw [hnine] at hlow hhigh
  generalize b.leadingExponent - (0 : ℕ) = t at *
  have hstep := b.step_pos t
  have hbelow : m * b.unit t ≤ 9 * b.unit t := by
    refine Nat.mul_le_mul_right _ (by_contra fun hlarge => ?_)
    have hmul : 11 * b.unit t ≤ m * b.unit t := Nat.mul_le_mul_right _ (by omega)
    simp only [Binary.gap] at hgap
    omega
  have hrounds' : b.RoundsTo ((9 : ℕ) * 10 ^ t) := by
    rw [b.roundsTo_multiple] at hm ⊢
    omega
  have hgap' := (Binary.nearestMultiple_nearest h hrounds').1
  simp only [Binary.gap] at hgap hgap'
  exact Binary.not_between_nine_and_ten hb hrounds' (by omega)

lemma Binary.takes_strip (hb : b.Regular) (hpos : 0 < b.mantissa) (hbarren : b.Barren k) {m : ℕ}
    (h : b.nearestMultiple? tie (b.leadingExponent - k) = some n)
    (hm : b.RoundsTo (m * 10 ^ (b.leadingExponent - k)))
    (hgap : b.gap (b.leadingExponent - k) n = b.gap (b.leadingExponent - k) m) (hne : n ≠ m)
    (htakes : tie.Takes ⟨n, b.leadingExponent - k⟩ ⟨m, b.leadingExponent - k⟩)
    (hd : d.value = (⟨m, b.leadingExponent - k⟩ : Decimal).value) :
    tie.Takes (strip ⟨n, b.leadingExponent - k⟩) d := by
  cases tie with
  | up =>
    change d.value < (strip _).value
    rw [value_strip, hd]
    exact htakes
  | even =>
    have hten := Binary.mod_ten_ne_zero hb hpos hbarren h hm hgap hne
    change (strip _).digits % 2 = 0
    rw [strip, dif_neg fun h => hten h.2]
    exact htakes

lemma Binary.exists_nearer (hb : b.Regular) (hpos : 0 < b.mantissa) (h : b.RoundsTo d.value)
    (hlength : d.length = k + 1) : ∃ m : ℕ, b.RoundsTo (m * 10 ^ (b.leadingExponent - k)) ∧
      |m * 10 ^ (b.leadingExponent - k) - b.value| ≤ |d.value - b.value| ∧
      (|m * 10 ^ (b.leadingExponent - k) - b.value| = |d.value - b.value| →
        d.value = m * 10 ^ (b.leadingExponent - k)) := by
  have hleading := d.leading_eq
  obtain hlt | hge := lt_or_ge d.leading b.leadingExponent
  -- the power of ten of the first digit is between the decimal and the number
  · obtain ⟨hvalue, hpower⟩ := Binary.roundsTo_power hb hpos h hlt
    have hle := (b.leadingExponent_spec hb hpos).1
    obtain ⟨m, hm⟩ := @exists_multiple ⟨1, b.leadingExponent⟩ (b.leadingExponent - k) (by simp)
    rw [Decimal.value, Nat.cast_one, one_mul] at hm
    rw [hm] at hvalue hpower hle
    have hnearer : |m * 10 ^ (b.leadingExponent - k) - b.value| < |d.value - b.value| := by
      rw [abs_of_nonpos (by linarith), abs_of_nonpos (by linarith)]
      linarith
    exact ⟨m, hpower, hnearer.le, fun heq => absurd heq hnearer.ne⟩
  · obtain ⟨m, hm⟩ := @exists_multiple d (b.leadingExponent - k) (by omega)
    exact ⟨m, hm ▸ h, by rw [hm], fun _ => hm⟩

theorem Binary.represents (hb : b.Regular) (hpos : 0 < b.mantissa) (tie : Tie) :
    Represents tie b (b.search tie b.leadingExponent 1 17).strip := by
  obtain ⟨k, n, hsearch, hsome, hbarren⟩ := Binary.search_first hb hpos tie
  have hrounds := Binary.roundsTo_of_nearestMultiple hsome
  have hvalue : (strip ⟨n, b.leadingExponent - k⟩).value = n * 10 ^ (b.leadingExponent - k) :=
    value_strip _
  -- as many digits as there are places on the grid
  have hlength : (strip ⟨n, b.leadingExponent - k⟩).length = k + 1 := by
    refine le_antisymm (length_strip_le ?_ ?_) (Binary.lt_length hb hpos hbarren (hvalue ▸ hrounds))
    · exact Binary.RoundsTo.digits_ne_zero (d := ⟨n, b.leadingExponent - k⟩) hb hpos hrounds
    · have hlower := Binary.lower_lt hb hpos k
      obtain rfl | rfl := Binary.eq_lower_or_upper hsome
      · exact hlower.le
      · exact hlower
  rw [hsearch]
  refine ⟨hvalue ▸ hrounds, fun d' h => hlength ▸ Binary.lt_length hb hpos hbarren h, ?_, ?_⟩
  · intro d' h hd'
    obtain ⟨m, hm, hnearer, -⟩ := Binary.exists_nearer hb hpos h (hd'.trans hlength)
    rw [hvalue]
    exact (Binary.gap_le_iff.mpr (Binary.nearestMultiple_nearest hsome hm).1).trans hnearer
  · intro d' h hd' heq
    obtain ⟨m, hm, hnearer, hequal⟩ := Binary.exists_nearer hb hpos h (hd'.trans hlength)
    obtain ⟨hle, htie⟩ := Binary.nearestMultiple_nearest hsome hm
    have hle' := Binary.gap_le_iff.mpr hle
    rw [hvalue] at heq ⊢
    have hvalue' := hequal (le_antisymm hnearer (heq ▸ hle'))
    have hgap := le_antisymm hle (Binary.gap_le_iff.mp (hnearer.trans heq.ge))
    by_cases hnm : n = m
    · exact .inl (by rw [hnm, hvalue'])
    · exact .inr (Binary.takes_strip hb hpos hbarren hsome hm hgap hnm ((htie hgap).resolve_left hnm)
        hvalue')

theorem represents_shortest (tie : Tie) (hx : x.isFinite = true) (hzero : (x == 0) = false) :
    Represents tie (Binary.ofFloat x) (shortest tie x) := by
  have hpos := mantissa_pos hzero
  rw [shortest, if_neg hpos.ne']
  exact Binary.represents (regular_ofFloat hx) hpos tie

end Shortest

section Whole

variable {b : Binary} {d : Decimal} {tie : Tie} {m n : ℕ}

lemma Binary.exponent_nonpos (hb : b.Regular) (hn : n < 2 ^ 53) (h : b.RoundsTo n) :
    b.exponent ≤ 0 := by
  by_contra hlarge
  have hquarters := hb.quarters_ge (by omega)
  have hunit : (2 : ℚ) ^ (-1 : ℤ) ≤ 2 ^ (b.exponent - 2) :=
    zpow_le_zpow_right₀ one_le_two (by omega)
  have hlow := h.low
  have hn' : (n : ℚ) + 1 ≤ 2 ^ 53 := by exact_mod_cast hn
  rw [zpow_neg_one] at hunit
  nlinarith

/-- Whole numbers of at most 53 bits are not rounded. -/
lemma Binary.exact (hb : b.Regular) (hn : n < 2 ^ 53) (h : b.RoundsTo n) :
    b.exponent ≤ 0 ∧ b.value = n := by
  have hexponent := Binary.exponent_nonpos hb hn h
  obtain ⟨k, hk⟩ : ∃ k : ℕ, b.exponent = -k := ⟨(-b.exponent).toNat, by omega⟩
  have hbelow : (b.below : ℚ) ≤ 2 := by exact_mod_cast hb.below_pos.2
  have hscale : (2 : ℚ) ^ (b.exponent - 2) * (4 * 2 ^ k) = 1 := by
    rw [hk, zpow_sub₀ two_ne_zero, zpow_neg, zpow_natCast]
    field_simp
    norm_num
  have hpos : (0 : ℚ) < 4 * 2 ^ k := by positivity
  have hlow := mul_le_mul_of_nonneg_right h.low hpos.le
  have hhigh := mul_le_mul_of_nonneg_right h.high hpos.le
  rw [mul_assoc, hscale, mul_one] at hlow hhigh
  -- within half a step of the mantissa there is no other whole number
  have hmantissa : n * 2 ^ k = b.mantissa := by
    have hlow' : 4 * b.mantissa ≤ 4 * (n * 2 ^ k) + 2 := by
      have : (4 * b.mantissa : ℚ) ≤ 4 * (n * 2 ^ k) + 2 := by linarith
      exact_mod_cast this
    have hhigh' : 4 * (n * 2 ^ k) ≤ 4 * b.mantissa + 2 := by
      have : (4 * (n * 2 ^ k) : ℚ) ≤ 4 * b.mantissa + 2 := by linarith
      exact_mod_cast this
    omega
  refine ⟨hexponent, ?_⟩
  rw [Binary.value, ← hmantissa, hk, zpow_neg, zpow_natCast]
  push_cast
  field_simp

lemma Binary.whole_unique (hb : b.Regular) (hn : n < 2 ^ 53) (h : b.RoundsTo n)
    (hm : b.RoundsTo m) : m = n := by
  obtain ⟨hexponent, hvalue⟩ := Binary.exact hb hn h
  have hbelow : (b.below : ℚ) ≤ 2 := by exact_mod_cast hb.below_pos.2
  have hquarter : (0 : ℚ) < 2 ^ (b.exponent - 2) := by positivity
  have hsmall : (2 : ℚ) ^ (b.exponent - 2) ≤ 2 ^ (-2 : ℤ) := zpow_le_zpow_right₀ one_le_two (by omega)
  have hfourth : (2 : ℚ) ^ (-2 : ℤ) = 1 / 4 := by norm_num
  have hlow := hm.low
  have hhigh := hm.high
  rw [b.value_eq] at hvalue
  rw [hfourth] at hsmall
  have hle : (m : ℚ) ≤ n + 1 / 2 := by linarith
  have hge : (n : ℚ) ≤ m + 1 / 2 := by nlinarith
  have hle' : 2 * m ≤ 2 * n + 1 := by
    have : (2 * m : ℚ) ≤ 2 * n + 1 := by linarith
    exact_mod_cast this
  have hge' : 2 * n ≤ 2 * m + 1 := by
    have : (2 * n : ℚ) ≤ 2 * m + 1 := by linarith
    exact_mod_cast this
  omega

lemma strip_whole (n : ℕ) : (strip ⟨n, 0⟩).value = n := by
  rw [value_strip, value]
  simp

lemma Binary.length_strip_le_of_neg (hb : b.Regular) (hpos : 0 < b.mantissa) (hn : n ≠ 0)
    (hsmall : n < 2 ^ 53) (h : b.RoundsTo n) (hd : b.RoundsTo d.value) (hexponent : d.exponent < 0) :
    (strip ⟨n, 0⟩).length ≤ d.length := by
  by_contra hlt
  have hrounds : b.RoundsTo (strip ⟨n, 0⟩).value := (strip_whole n).symm ▸ h
  have hstrip : (0 : ℤ) ≤ (strip ⟨n, 0⟩).exponent := exponent_strip ⟨n, 0⟩
  have hleading := d.leading_eq
  have hleading' := (strip ⟨n, 0⟩).leading_eq
  have hlength := d.length_pos
  have hbelow := (leading_spec (hd.digits_ne_zero hb hpos)).2
  have habove := (leading_spec (hrounds.digits_ne_zero hb hpos)).1
  obtain ⟨k, hk⟩ : ∃ k : ℕ, (strip ⟨n, 0⟩).leading = k := ⟨(strip ⟨n, 0⟩).leading.toNat, by omega⟩
  have hle : (10 : ℚ) ^ (d.leading + 1) ≤ 10 ^ (k : ℤ) := zpow_le_zpow_right₀ (by norm_num) (by omega)
  rw [hk] at habove
  -- a power of ten between the two decimals is the number itself, which has one digit then
  have hpower : b.RoundsTo (10 ^ k : ℕ) := by
    have hbetween := hd.between hrounds (hbelow.trans_le hle).le habove
    rw [zpow_natCast] at hbetween
    exact_mod_cast hbetween
  have hn' := Binary.whole_unique hb hsmall h hpower
  have hone : (strip ⟨n, 0⟩).value = (⟨1, k⟩ : Decimal).value := by
    rw [strip_whole, ← hn', Decimal.value, zpow_natCast]
    push_cast
    ring
  have hdigit : (⟨1, k⟩ : Decimal).length ≤ 1 := (length_le_iff one_pos).mpr (by simp)
  rw [eq_of_value (digits_strip hn) (by simp) hone] at hlt
  omega

/-- A whole number of at most 53 bits is written with its own digits. -/
theorem Represents.value_whole (hd : Represents tie b d) (hb : b.Regular) (hn : n ≠ 0)
    (hsmall : n < 2 ^ 53) (h : b.RoundsTo n) : d.value = n := by
  have hvalue := (Binary.exact hb hsmall h).2
  have hpos : 0 < b.mantissa := by
    refine Nat.pos_of_ne_zero fun hzero => hn ?_
    rw [Binary.value, hzero, Nat.cast_zero, zero_mul] at hvalue
    exact_mod_cast hvalue.symm
  have hrounds : b.RoundsTo (strip ⟨n, 0⟩).value := (strip_whole n).symm ▸ h
  obtain hexponent | hexponent := le_or_gt 0 d.exponent
  · obtain ⟨m, hm⟩ := exists_multiple hexponent
    rw [zpow_zero, mul_one] at hm
    have hwhole : b.RoundsTo m := hm ▸ hd.rounds
    rw [hm, Binary.whole_unique hb hsmall h hwhole]
  · have hlength := Binary.length_strip_le_of_neg hb hpos hn hsmall h hd.rounds hexponent
    have hnear := hd.nearest _ hrounds (le_antisymm hlength (hd.fewest _ hrounds))
    rw [strip_whole, hvalue, sub_self, abs_zero, abs_nonpos_iff] at hnear
    exact sub_eq_zero.mp hnear

end Whole

end Armature.Decimal
