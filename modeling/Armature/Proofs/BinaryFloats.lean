import Armature.Json.Value
import Mathlib

/-! Floating-point numbers by their fields: sign, exponent and fraction. -/

namespace Armature.Decimal

open Float.Model Float.Model.UnpackedFloat

section Fields

variable {x y : Float}

def fractionField (x : Float) : ℕ := x.toBits.toNat % leadingBit

def exponentField (x : Float) : ℕ := x.toBits.toNat / leadingBit % 2048

def signField (x : Float) : ℕ := x.toBits.toNat / 2 ^ 63

lemma fractionField_eq (x : Float) :
    (@unpackMantissa .binary64 x.toBits.toBitVec).toNat = fractionField x := by
  simp [unpackMantissa_def, fractionField, leadingBit]

lemma exponentField_eq (x : Float) :
    (@unpackExponent .binary64 x.toBits.toBitVec).toNat = exponentField x := by
  simp [unpackExponent_def, exponentField, leadingBit, Nat.shiftRight_eq_div_pow]

lemma signField_eq (x : Float) :
    (@unpackSign .binary64 x.toBits.toBitVec).toNat = signField x := by
  have hbits : x.toBits.toNat < 2 ^ 64 := x.toBits.toNat_lt
  simp [unpackSign_def, signField, Nat.shiftRight_eq_div_pow]
  omega

lemma eq_of_fields (hfraction : fractionField x = fractionField y)
    (hexponent : exponentField x = exponentField y) (hsign : signField x = signField y) : x = y := by
  have hx : x.toBits.toNat < 2 ^ 64 := x.toBits.toNat_lt
  have hy : y.toBits.toNat < 2 ^ 64 := y.toBits.toNat_lt
  simp only [fractionField, exponentField, signField, leadingBit] at hfraction hexponent hsign
  exact Float.toBits_inj.mp (UInt64.toNat_inj.mp (by omega))

lemma isNegative_iff : (x.toBits >>> 63 == 1) = decide (signField x = 1) := by
  rw [Bool.eq_iff_iff, beq_iff_eq, decide_eq_true_eq, ← UInt64.toNat_inj, UInt64.toNat_shiftRight]
  simp [signField, Nat.shiftRight_eq_div_pow]

lemma isFinite_iff : x.isFinite = true ↔ exponentField x ≠ 2047 := by
  have hexponent : @unpackExponent .binary64 x.toBits.toBitVec = -1#_ ↔
      exponentField x = 2047 := by
    rw [← BitVec.toNat_inj, exponentField_eq]
    rfl
  rw [← not_iff_not, not_not, ← hexponent]
  change ¬ (UnpackedFloat.unpack Format.binary64 x.toBits.toBitVec).isFinite = true ↔ _
  rw [UnpackedFloat.unpack]
  dsimp only
  split_ifs with h
  · exact iff_of_true (fun hfinite => nomatch hfinite) h
  · exact iff_of_true (fun hfinite => nomatch hfinite) h
  all_goals exact iff_of_false (not_not.mpr rfl) h

lemma ofFloat_eq (x : Float) : Binary.ofFloat x =
    if exponentField x = 0 then ⟨fractionField x, -1074, 2⟩
    else ⟨leadingBit + fractionField x, (exponentField x : ℤ) - 1075,
      if fractionField x = 0 && exponentField x ≠ 1 then 1 else 2⟩ := rfl

lemma signField_lt (x : Float) : signField x < 2 := by
  have hx : x.toBits.toNat < 2 ^ 64 := x.toBits.toNat_lt
  rw [signField]
  omega

lemma beq_zero_iff : (x == 0) = true ↔ exponentField x = 0 ∧ fractionField x = 0 := by
  have hplus : exponentField 0 = 0 ∧ fractionField 0 = 0 ∧ signField 0 = 0 := by decide +kernel
  have hminus : exponentField (-0) = 0 ∧ fractionField (-0) = 0 ∧ signField (-0) = 1 := by
    decide +kernel
  have hnan : exponentField Float.nan = 2047 ∧ exponentField 0 ≠ 2047 := by decide +kernel
  rw [Float.beq_iff_ne_nan_and_eq]
  constructor
  · rintro ⟨-, -, rfl | ⟨rfl, -⟩ | ⟨rfl, -⟩⟩
    · exact ⟨hplus.1, hplus.2.1⟩
    · exact ⟨hplus.1, hplus.2.1⟩
    · exact ⟨hminus.1, hminus.2.1⟩
  · rintro ⟨hexponent, hfraction⟩
    refine ⟨?_, ?_, ?_⟩
    · rintro rfl
      omega
    · intro h
      rw [h] at hnan
      exact hnan.2 hnan.1
    · have hsign := signField_lt x
      by_cases h : signField x = 0
      · exact .inl (eq_of_fields (by omega) (by omega) (by omega))
      · exact .inr (.inr ⟨eq_of_fields (by omega) (by omega) (by omega), rfl⟩)

end Fields

section Negation

variable {x y : Float}

lemma toBits_neg (x : Float) : (-x).toBits.toBitVec =
    UnpackedFloat.pack Format.binary64 (UnpackedFloat.unpack Format.binary64 x.toBits.toBitVec).neg :=
  rfl

lemma pack_toBits (x : Float) : UnpackedFloat.pack Format.binary64
    (UnpackedFloat.unpack Format.binary64 x.toBits.toBitVec) = x.toBits.toBitVec :=
  pack_unpack_of_valid x.toModel.valid

lemma unpack_pack_neg (f : UnpackedFloat) :
    unpackExponent (UnpackedFloat.pack Format.binary64 f.neg) =
        unpackExponent (UnpackedFloat.pack Format.binary64 f) ∧
      unpackMantissa (UnpackedFloat.pack Format.binary64 f.neg) =
        unpackMantissa (UnpackedFloat.pack Format.binary64 f) := by
  cases f with
  | finite s m e hm =>
    simp only [UnpackedFloat.neg, UnpackedFloat.pack]
    split_ifs <;> simp [packedInfinity]
  | _ => simp [UnpackedFloat.neg, UnpackedFloat.pack, packedInfinity, packedZero]

@[simp]
lemma exponentField_neg (x : Float) : exponentField (-x) = exponentField x := by
  rw [← exponentField_eq, toBits_neg, (unpack_pack_neg _).1, pack_toBits, exponentField_eq]

@[simp]
lemma fractionField_neg (x : Float) : fractionField (-x) = fractionField x := by
  rw [← fractionField_eq, toBits_neg, (unpack_pack_neg _).2, pack_toBits, fractionField_eq]

lemma signField_neg (hx : x.isFinite = true) : signField (-x) = 1 - signField x := by
  have h (f : UnpackedFloat) (hf : f.isFinite = true) :
      (unpackSign (UnpackedFloat.pack Format.binary64 f.neg)).toNat =
        1 - (unpackSign (UnpackedFloat.pack Format.binary64 f)).toNat := by
    have hsign (s : Sign) : (-s).toBitVec.toNat = 1 - s.toBitVec.toNat := by cases s <;> rfl
    cases f with
    | finite s m e hm =>
      simp only [UnpackedFloat.neg, UnpackedFloat.pack]
      split_ifs <;> simp [packedInfinity, hsign]
    | zero s => simp [UnpackedFloat.neg, UnpackedFloat.pack, packedZero, hsign]
    | _ => cases hf
  rw [← signField_eq, toBits_neg, h (UnpackedFloat.unpack Format.binary64 x.toBits.toBitVec) hx,
    pack_toBits, signField_eq]

lemma isFinite_neg (hx : x.isFinite = true) : (-x).isFinite = true := by
  rwa [isFinite_iff, exponentField_neg, ← isFinite_iff]

end Negation

section Naturals

/-- A floating-point number from its sign, mantissa and exponent, the mantissa with its leading bit. -/
lemma fields_pack {s : Sign} {m : ℕ} {e : ℤ} {hm : 0 < m} (hlog : m.log2 = 52) (hlow : -1074 ≤ e)
    (hhigh : e ≤ 971) {x : Float} (hx : x = .ofModel (Float.Model.pack (.finite s m e hm))) :
    fractionField x = m % leadingBit ∧ (exponentField x : ℤ) = e + 1075 ∧
      signField x = s.toBitVec.toNat := by
  have hbits : x.toBits.toBitVec = packComponents Format.binary64 s
      (BitVec.ofNat 11 (e + 1075).toNat) (BitVec.ofNat 52 m) := by
    have hbiased :
        (e + Format.binary64.exponentBias + Format.binary64.mantissaBitsWithoutImplicit).toNat =
        (e + 1075).toNat := by
      rw [add_assoc]
      rfl
    rw [hx]
    change UnpackedFloat.pack Format.binary64 (.finite s m e hm) = _
    simp only [UnpackedFloat.pack, hbiased, hlog]
    rw [if_neg (by norm_num; omega), if_pos (by rfl)]
  rw [← fractionField_eq, ← exponentField_eq, ← signField_eq, hbits, unpackMantissa_packComponents,
    unpackExponent_packComponents, unpackSign_packComponents]
  refine ⟨?_, ?_, rfl⟩
  · simp [leadingBit]
  · simp
    omega

lemma targetExponent_eq (m : ℕ) (e : ℤ) :
    Format.binary64.targetExponent (totalExponent m e) = max (m.log2 + e - 52) (-1074) := by
  simp only [Format.targetExponent, totalExponent, Format.mantissaBits, Format.minExponent]
  norm_num
  omega

lemma shift_exact {m : ℕ} {e : ℤ} (hlog : m.log2 = 52) (he : -1074 ≤ e) :
    shiftToTargetExponent Format.binary64 m e .exact = (⟨m, false, false⟩, e) := by
  have htarget : Format.binary64.targetExponent (totalExponent m e) = e := by
    rw [targetExponent_eq, hlog]
    omega
  simp [shiftToTargetExponent, htarget, shiftToExponent, HShiftRight.hShiftRight, Nat.repeat,
    ExtendedMantissa.ofMantissaAndAccuracy]

lemma shift_carried {e : ℤ} (he : -1074 ≤ e) :
    shiftToTargetExponent Format.binary64 (2 ^ 53) e .exact = (⟨2 ^ 52, false, false⟩, e + 1) := by
  have htarget : Format.binary64.targetExponent (totalExponent (2 ^ 53) e) = e + 1 := by
    rw [targetExponent_eq, Nat.log2_two_pow]
    omega
  rw [shiftToTargetExponent, htarget]
  simp [shiftToExponent, HShiftRight.hShiftRight, Nat.repeat,
    ExtendedMantissa.ofMantissaAndAccuracy, ExtendedMantissa.shiftRightOne]

/-- The bits that are shifted out: the last one of them, and whether any before it is set. -/
lemma shiftRight_exact (n k : ℕ) :
    (⟨n, false, false⟩ : ExtendedMantissa) >>> (k + 1) =
      ⟨n / 2 ^ (k + 1), n / 2 ^ k % 2 != 0, n % 2 ^ k != 0⟩ := by
  induction k with
  | zero => simp [HShiftRight.hShiftRight, Nat.repeat, ExtendedMantissa.shiftRightOne, Nat.mod_one]
  | succ k ih =>
    have hstep : (⟨n, false, false⟩ : ExtendedMantissa) >>> (k + 1 + 1) =
        ((⟨n, false, false⟩ : ExtendedMantissa) >>> (k + 1)).shiftRightOne := rfl
    have hsticky : (n / 2 ^ k % 2 != 0 || n % 2 ^ k != 0) = (n % 2 ^ (k + 1) != 0) := by
      rw [Nat.mod_pow_succ, Bool.eq_iff_iff]
      simp
      tauto
    rw [hstep, ih, ExtendedMantissa.shiftRightOne, hsticky, Nat.div_div_eq_div_mul, ← pow_succ]

lemma roundedMantissa_eq (m : ℕ) (bit rest : ℕ) :
    (⟨m, bit != 0, rest != 0⟩ : ExtendedMantissa).roundedMantissa =
      if bit = 0 then m else if rest = 0 then m + m % 2 else m + 1 := by
  cases bit <;> cases rest <;> rfl

/-- Rounding goes to one of the two neighbours that is at most half a unit away, and to the even one
if both are. -/
lemma roundedMantissa_near (n k : ℕ) {r : ℕ} (hr : r =
    (⟨n / 2 ^ (k + 1), n / 2 ^ k % 2 != 0, n % 2 ^ k != 0⟩ : ExtendedMantissa).roundedMantissa) :
    n / 2 ^ (k + 1) ≤ r ∧ r ≤ n / 2 ^ (k + 1) + 1 ∧
      2 * r * 2 ^ k ≤ n + 2 ^ k ∧ n ≤ 2 * r * 2 ^ k + 2 ^ k ∧
      (r % 2 = 1 → 2 * r * 2 ^ k < n + 2 ^ k ∧ n < 2 * r * 2 ^ k + 2 ^ k) := by
  have hn : 2 ^ k * (n / 2 ^ k) + n % 2 ^ k = n := Nat.div_add_mod n (2 ^ k)
  have hrest : n % 2 ^ k < 2 ^ k := Nat.mod_lt _ (by positivity)
  rw [roundedMantissa_eq, pow_succ, ← Nat.div_div_eq_div_mul] at hr
  rw [pow_succ, ← Nat.div_div_eq_div_mul]
  generalize n / 2 ^ k = d at *
  generalize n % 2 ^ k = rest at *
  generalize 2 ^ k = unit at *
  -- by the last bit that is shifted out
  obtain ⟨a, rfl | rfl⟩ := Nat.even_or_odd' d
  · have ha : 2 * a / 2 = a := by omega
    rw [if_pos (by omega), ha] at hr
    subst hr
    rw [ha]
    have hunits : 2 * r * unit = unit * (2 * r) := mul_comm ..
    omega
  · have ha : (2 * a + 1) / 2 = a := by omega
    rw [if_neg (by omega), ha] at hr
    rw [ha]
    have hunits : 2 * r * unit = unit * (2 * r) := mul_comm ..
    have hodd : unit * (2 * a + 1) = unit * (2 * a) + unit := by ring
    split_ifs at hr with hzero
    · obtain hpar | hpar := Nat.mod_two_eq_zero_or_one a
      · obtain rfl : r = a := by omega
        omega
      · obtain rfl : r = a + 1 := by omega
        have hnext : unit * (2 * (a + 1)) = unit * (2 * a) + 2 * unit := by ring
        omega
    · subst hr
      have hnext : unit * (2 * (a + 1)) = unit * (2 * a) + 2 * unit := by ring
      omega

/-- What lies between the two ends rounds to the number; so do the ends, for an even mantissa. -/
structure Binary.RoundsTo (b : Binary) (q : ℚ) : Prop where
  low : (4 * b.mantissa - b.below) * (2 : ℚ) ^ (b.exponent - 2) ≤ q
  high : q ≤ (4 * b.mantissa + 2) * (2 : ℚ) ^ (b.exponent - 2)
  inside : b.mantissa % 2 = 1 → (4 * b.mantissa - b.below) * (2 : ℚ) ^ (b.exponent - 2) < q ∧
    q < (4 * b.mantissa + 2) * (2 : ℚ) ^ (b.exponent - 2)

lemma Binary.roundsTo_self {b : Binary} (hbelow : 0 < b.below) {q : ℚ}
    (hq : q = b.mantissa * 2 ^ b.exponent) : b.RoundsTo q := by
  have hunit : (2 : ℚ) ^ b.exponent = 4 * 2 ^ (b.exponent - 2) := by
    rw [zpow_sub₀ two_ne_zero]
    ring
  have hpos : (0 : ℚ) < 2 ^ (b.exponent - 2) := by positivity
  have hbelow' : (0 : ℚ) < b.below := by exact_mod_cast hbelow
  rw [hq, hunit]
  exact ⟨by nlinarith, by nlinarith, fun _ => ⟨by nlinarith, by nlinarith⟩⟩

/-- The form in which a positive whole number below `2 ^ 64` is rounded. -/
def RoundedTo (n : ℕ) : Prop :=
  ∃ m e hm, round Format.binary64 .positive n 0 = .finite .positive m e hm ∧ m.log2 = 52 ∧
    -52 ≤ e ∧ e ≤ 12 ∧ (⟨m, e, if m = leadingBit then 1 else 2⟩ : Binary).RoundsTo n

lemma round_exact {n : ℕ} (hn : 0 < n) (hlog : n.log2 ≤ 52) : RoundedTo n := by
  have hlow : 2 ^ n.log2 ≤ n := Nat.log2_self_le hn.ne'
  have hhigh : n < 2 ^ (n.log2 + 1) := Nat.lt_log2_self
  obtain ⟨places, hplaces⟩ : ∃ places, n.log2 + places = 52 := ⟨52 - n.log2, by omega⟩
  have hm : (n * 2 ^ places).log2 = 52 := by
    rw [Nat.log2_eq_iff (by positivity), ← hplaces, pow_add, show n.log2 + places + 1 =
      n.log2 + 1 + places by omega, pow_add (n := places)]
    exact ⟨Nat.mul_le_mul_right _ hlow, Nat.mul_lt_mul_of_pos_right hhigh (by positivity)⟩
  have hdecrease : decreaseExponent n 0 (Format.binary64.targetExponent (totalExponent n 0)) =
      (n * 2 ^ places, -(places : ℤ)) := by
    have hshift : (0 - max ((n.log2 : ℤ) + 0 - 52) (-1074)).toNat = places := by omega
    rw [targetExponent_eq, decreaseExponent, Nat.shiftLeft_eq, hshift, zero_sub]
  have hne : n * 2 ^ places ≠ 0 := by positivity
  refine ⟨n * 2 ^ places, -places, by positivity, ?_, hm, by omega, by omega,
    Binary.roundsTo_self (by dsimp only; split_ifs <;> decide) ?_⟩
  · simp only [UnpackedFloat.round, hdecrease, roundWithAccuracy,
      shift_exact (e := -(places : ℤ)) hm (by omega), ExtendedMantissa.roundedMantissa,
      ExtendedMantissa.accuracy, Accuracy.roundToNearestEven, hne, dite_false]
  · push_cast
    rw [zpow_neg, zpow_natCast, mul_assoc, mul_inv_cancel₀ (by positivity), mul_one]

section Inexact

variable {n k r : ℕ}

lemma decrease_inexact (hlog : n.log2 = 53 + k) :
    decreaseExponent n 0 (Format.binary64.targetExponent (totalExponent n 0)) = (n, 0) := by
  rw [targetExponent_eq, decreaseExponent, hlog]
  have hshift : (0 - max (((53 + k : ℕ) : ℤ) + 0 - 52) (-1074)).toNat = 0 := by omega
  rw [hshift]
  rfl

lemma shift_inexact (hlog : n.log2 = 53 + k) : shiftToTargetExponent Format.binary64 n 0 .exact =
    (⟨n / 2 ^ (k + 1), n / 2 ^ k % 2 != 0, n % 2 ^ k != 0⟩, (k : ℤ) + 1) := by
  rw [shiftToTargetExponent, targetExponent_eq, hlog, shiftToExponent]
  have hshift : (max (((53 + k : ℕ) : ℤ) + 0 - 52) (-1074) - 0).toNat = k + 1 := by omega
  rw [hshift, ExtendedMantissa.ofMantissaAndAccuracy, shiftRight_exact]
  exact Prod.ext rfl (by dsimp only; omega)

lemma roundsTo_of_near (hlow : 2 ^ 52 * 2 ^ (k + 1) ≤ n) (hfar : 2 * r * 2 ^ k ≤ n + 2 ^ k)
    (hnear : n ≤ 2 * r * 2 ^ k + 2 ^ k)
    (hodd : r % 2 = 1 → 2 * r * 2 ^ k < n + 2 ^ k ∧ n < 2 * r * 2 ^ k + 2 ^ k) :
    (⟨r, k + 1, if r = leadingBit then 1 else 2⟩ : Binary).RoundsTo n := by
  have hhalf : (2 : ℚ) ^ ((k : ℤ) + 1 - 2) = 2 ^ k / 2 := by
    rw [show (k : ℤ) + 1 - 2 = k - 1 by ring, zpow_sub₀ two_ne_zero, zpow_natCast, zpow_one]
  have hlow' : (2 : ℚ) ^ 52 * (2 ^ k * 2) ≤ n := by rw [← pow_succ]; exact_mod_cast hlow
  have hfar' : 2 * (r : ℚ) * 2 ^ k ≤ n + 2 ^ k := by exact_mod_cast hfar
  have hnear' : (n : ℚ) ≤ 2 * r * 2 ^ k + 2 ^ k := by exact_mod_cast hnear
  have hodd' : r % 2 = 1 → 2 * (r : ℚ) * 2 ^ k < n + 2 ^ k ∧ (n : ℚ) < 2 * r * 2 ^ k + 2 ^ k := by
    exact_mod_cast hodd
  -- the numbers below the first full mantissa are half as far apart
  split_ifs with hfull
  · have hr : (r : ℚ) = 2 ^ 52 := by rw [hfull]; norm_num [leadingBit]
    refine ⟨?_, ?_, fun hpar => by rw [hfull] at hpar; norm_num [leadingBit] at hpar⟩
    · rw [hhalf, hr]
      push_cast
      linarith
    · rw [hhalf]
      linarith
  · refine ⟨?_, ?_, fun hpar => ?_⟩
    · rw [hhalf]
      push_cast
      linarith
    · rw [hhalf]
      linarith
    · rw [hhalf]
      push_cast
      exact ⟨by linarith [(hodd' hpar).1], by linarith [(hodd' hpar).2]⟩

lemma roundsTo_of_carried (hfar : 2 * 2 ^ 53 * 2 ^ k ≤ n + 2 ^ k)
    (hnear : n ≤ 2 * 2 ^ 53 * 2 ^ k + 2 ^ k) :
    (⟨2 ^ 52, k + 2, if 2 ^ 52 = leadingBit then 1 else 2⟩ : Binary).RoundsTo n := by
  have hunit : (0 : ℚ) < 2 ^ k := by positivity
  have hfar' : 2 * 2 ^ 53 * (2 : ℚ) ^ k ≤ n + 2 ^ k := by exact_mod_cast hfar
  have hnear' : (n : ℚ) ≤ 2 * 2 ^ 53 * 2 ^ k + 2 ^ k := by exact_mod_cast hnear
  refine ⟨?_, ?_, fun hpar => by norm_num at hpar⟩
  · simp [leadingBit]
    linarith
  · simp
    linarith

/-- The rounded mantissa may need one bit more than there is room for. -/
lemma round_inexact (hlog : n.log2 = 53 + k) (hk : k ≤ 10) : RoundedTo n := by
  have hne : n ≠ 0 := by
    rintro rfl
    rw [Nat.log2_zero] at hlog
    omega
  have hlow : 2 ^ 52 * 2 ^ (k + 1) ≤ n := by
    rw [← pow_add, show 52 + (k + 1) = n.log2 by omega]
    exact Nat.log2_self_le hne
  have hhigh : n < 2 ^ 53 * 2 ^ (k + 1) := by
    rw [← pow_add, show 53 + (k + 1) = n.log2 + 1 by omega]
    exact Nat.lt_log2_self
  have hquotient : 2 ^ 52 ≤ n / 2 ^ (k + 1) ∧ n / 2 ^ (k + 1) < 2 ^ 53 :=
    ⟨(Nat.le_div_iff_mul_le (by positivity)).mpr hlow,
      (Nat.div_lt_iff_lt_mul (by positivity)).mpr hhigh⟩
  obtain ⟨r, hr⟩ : ∃ r, r = (⟨n / 2 ^ (k + 1), n / 2 ^ k % 2 != 0, n % 2 ^ k != 0⟩ :
    ExtendedMantissa).roundedMantissa := ⟨_, rfl⟩
  obtain ⟨hfloor, hceil, hfar, hnear, hodd⟩ := roundedMantissa_near n k hr
  have hround := decrease_inexact hlog
  have hfirst := shift_inexact hlog
  -- a mantissa that is carried into another bit is halved, and its exponent raised
  by_cases hcarry : r = 2 ^ 53
  · subst hcarry
    refine ⟨2 ^ 52, k + 2, by positivity, ?_, Nat.log2_two_pow, by omega, by omega,
      roundsTo_of_carried hfar hnear⟩
    simp only [UnpackedFloat.round, hround, roundWithAccuracy, hfirst, ← hr,
      shift_carried (e := (k : ℤ) + 1) (by omega)]
    rfl
  · have hrlog : r.log2 = 52 := (Nat.log2_eq_iff (by omega)).mpr (by omega)
    have hrne : r ≠ 0 := by omega
    refine ⟨r, k + 1, by omega, ?_, hrlog, by omega, by omega, roundsTo_of_near hlow hfar hnear hodd⟩
    simp only [UnpackedFloat.round, hround, roundWithAccuracy, hfirst, ← hr,
      shift_exact (e := (k : ℤ) + 1) hrlog (by omega), hrne, dite_false]

end Inexact

lemma ofFloat_pack {m : ℕ} {e : ℤ} {hm : 0 < m} (hlog : m.log2 = 52) (hlow : -1074 < e)
    (hhigh : e ≤ 971) {x : Float} (hx : x = .ofModel (Float.Model.pack (.finite .positive m e hm))) :
    x.isFinite = true ∧ signField x = 0 ∧
      Binary.ofFloat x = ⟨m, e, if m = leadingBit then 1 else 2⟩ := by
  obtain ⟨hfraction, hexponent, hsign⟩ := fields_pack hlog (by omega) hhigh hx
  obtain ⟨hlow', hhigh'⟩ := (Nat.log2_eq_iff hm.ne').mp hlog
  have hmantissa : leadingBit + m % leadingBit = m := by simp only [leadingBit]; omega
  refine ⟨isFinite_iff.mpr (by omega), hsign, ?_⟩
  have hfull : m % leadingBit = 0 ↔ m = leadingBit := by simp only [leadingBit]; omega
  have hbiased : exponentField x ≠ 1 := by omega
  rw [ofFloat_eq, if_neg (by omega), hfraction, hexponent, hmantissa]
  simp [hbiased, hfull]

lemma toFloat_eq {n : ℕ} (hpos : 0 < n) (h : n < 2 ^ 64) : n.toUInt64.toFloat =
    .ofModel (Float.Model.pack (round Format.binary64 .positive n 0)) := by
  have hn : n.toUInt64.toNat = n := Nat.mod_eq_of_lt h
  have hcompare : compare (n : ℤ) 0 = .gt := by
    rw [compare_gt_iff_gt]
    exact_mod_cast hpos
  change Float.ofModel
    (Float.Model.pack (normalize Format.binary64 (n.toUInt64.toNat : ℤ) 0 .positive)) = _
  rw [hn, UnpackedFloat.normalize, hcompare]
  rfl

theorem toFloat_rounds {n : ℕ} (h : n < 2 ^ 64) : n.toUInt64.toFloat.isFinite = true ∧
    signField n.toUInt64.toFloat = 0 ∧ (Binary.ofFloat n.toUInt64.toFloat).RoundsTo n := by
  obtain rfl | hpos := Nat.eq_zero_or_pos n
  · have hzero : exponentField (0 : ℕ).toUInt64.toFloat = 0 ∧ fractionField (0 : ℕ).toUInt64.toFloat = 0 ∧
        signField (0 : ℕ).toUInt64.toFloat = 0 := by decide +kernel
    refine ⟨by decide +kernel, hzero.2.2, Binary.roundsTo_self ?_ ?_⟩
    · rw [ofFloat_eq, if_pos hzero.1]
      decide
    · rw [ofFloat_eq, if_pos hzero.1, hzero.2.1]
      simp
  · have hlog : n.log2 < 64 := (Nat.log2_lt hpos.ne').mpr h
    have hrounded : RoundedTo n := by
      obtain hexact | hinexact := le_or_gt n.log2 52
      · exact round_exact hpos hexact
      · exact round_inexact (k := n.log2 - 53) (by omega) (by omega)
    obtain ⟨m, e, hm, hround, hmlog, hlow, hhigh, hrounds⟩ := hrounded
    obtain ⟨hfinite, hsign, hbinary⟩ :=
      ofFloat_pack hmlog (by omega) (by omega) (hround ▸ toFloat_eq hpos h)
    exact ⟨hfinite, hsign, hbinary ▸ hrounds⟩

end Naturals

section Shape

/-- The form of the absolute value of a finite floating-point number. -/
structure Binary.Regular (b : Binary) : Prop where
  mantissa_lt : b.mantissa < 2 * leadingBit
  exponent_ge : -1074 ≤ b.exponent
  exponent_le : b.exponent ≤ 971
  full : leadingBit ≤ b.mantissa ∨ b.exponent = -1074
  below_eq : b.below = if b.mantissa = leadingBit ∧ b.exponent ≠ -1074 then 1 else 2

variable {x y : Float}

lemma regular_ofFloat (hx : x.isFinite = true) : (Binary.ofFloat x).Regular := by
  have hexponent := isFinite_iff.mp hx
  have hexponent' : exponentField x < 2048 := Nat.mod_lt _ (by decide)
  have hfraction : fractionField x < leadingBit := Nat.mod_lt _ (by decide)
  by_cases hzero : exponentField x = 0
  · rw [ofFloat_eq, if_pos hzero]
    exact ⟨by dsimp only; omega, le_rfl, by norm_num, .inr rfl, by simp⟩
  · rw [ofFloat_eq, if_neg hzero]
    have hleast : (exponentField x : ℤ) - 1075 = -1074 ↔ exponentField x = 1 := by omega
    refine ⟨?_, ?_, ?_, .inl ?_, ?_⟩ <;> dsimp only
    · omega
    · omega
    · omega
    · omega
    · simp [hleast]

lemma eq_of_ofFloat (hbinary : Binary.ofFloat x = Binary.ofFloat y)
    (hsign : signField x = signField y) :
    x = y := by
  have hx : fractionField x < leadingBit := Nat.mod_lt _ (by decide)
  have hy : fractionField y < leadingBit := Nat.mod_lt _ (by decide)
  rw [ofFloat_eq, ofFloat_eq] at hbinary
  split_ifs at hbinary with hzero hzero' <;> simp only [Binary.mk.injEq] at hbinary
  all_goals exact eq_of_fields (by omega) (by omega) hsign

lemma mantissa_eq_zero : (Binary.ofFloat x).mantissa = 0 ↔ (x == 0) = true := by
  rw [beq_zero_iff]
  by_cases hzero : exponentField x = 0
  · simp [ofFloat_eq, hzero]
  · simp [ofFloat_eq, hzero, leadingBit]

@[simp]
lemma ofFloat_neg (x : Float) : Binary.ofFloat (-x) = Binary.ofFloat x := by
  rw [ofFloat_eq, ofFloat_eq, exponentField_neg, fractionField_neg]

lemma beq_self (hx : x.isFinite = true) : (x == x) = true := by
  rw [Float.beq_self_iff]
  rintro rfl
  revert hx
  decide +kernel

end Shape

end Armature.Decimal

namespace Armature.Number

open Decimal

lemma toFloat_integer {n : ℤ} (hlow : -UInt64.size ≤ 2 * n) (hhigh : n < UInt64.size) :
    (integer n).toFloat.isFinite = true ∧ signField (integer n).toFloat = (if n < 0 then 1 else 0) ∧
      (Binary.ofFloat (integer n).toFloat).RoundsTo n.natAbs := by
  obtain ⟨hfinite, hsign, hrounds⟩ := toFloat_rounds (n := n.natAbs) (by rw [UInt64.size] at *; omega)
  rw [toFloat]
  split_ifs with hneg
  · exact ⟨isFinite_neg hfinite, by rw [signField_neg hfinite, hsign], by rwa [ofFloat_neg]⟩
  · exact ⟨hfinite, hsign, hrounds⟩

end Armature.Number
