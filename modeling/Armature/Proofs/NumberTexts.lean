import Armature.Json.Canonical
import Armature.Proofs.MemberOrders
import Armature.Proofs.ShortestDecimals

/-! Numbers as texts. A text without an exponent stands for a decimal that rounds to the number, so that
numbers with one such text are equal. -/

namespace Armature.Decimal

section Numerals

/-- The characters that numbers are written with. -/
def inNumeral (c : Char) : Bool := c.isDigit || c == '-' || c == '+' || c == '.' || c == 'e'

structure IsNumeral (s : String) : Prop where
  nonempty : s.toList ≠ []
  all : s.toList.all inNumeral = true

/-- The absolute value of a numeral without an exponent. -/
def magnitude (cs : List Char) : ℚ :=
  Nat.ofDigitChars 10 (cs.filter Char.isDigit) 0 / 10 ^ ((cs.dropWhile (· ≠ '.')).length - 1)

variable {as bs cs : List Char}

lemma toList_toString (n : ℕ) : (toString n).toList = Nat.toDigits 10 n := by
  rw [Nat.toString_eq_ofList_toDigits, String.toList_ofList]

lemma isDigit_of_mem_toDigits {n : ℕ} {c : Char} (h : c ∈ Nat.toDigits 10 n) : c.isDigit = true :=
  Nat.isDigit_of_mem_toDigits (by decide) (by decide) h

lemma ne_point_of_isDigit {c : Char} (h : c.isDigit = true) : c ≠ '.' := by
  rintro rfl
  revert h
  decide

lemma magnitude_whole (h : ∀ c ∈ cs, c.isDigit = true) :
    magnitude cs = Nat.ofDigitChars 10 cs 0 := by
  have hpoint : cs.dropWhile (· ≠ '.') = [] :=
    List.dropWhile_eq_nil_iff.mpr fun c hc => decide_eq_true (ne_point_of_isDigit (h c hc))
  rw [magnitude, hpoint, List.filter_eq_self.mpr h]
  simp

lemma magnitude_point (has : ∀ c ∈ as, c.isDigit = true) (hbs : ∀ c ∈ bs, c.isDigit = true) :
    magnitude (as ++ '.' :: bs) = Nat.ofDigitChars 10 (as ++ bs) 0 / 10 ^ bs.length := by
  have hpoint : (as ++ '.' :: bs).dropWhile (· ≠ '.') = '.' :: bs := by
    rw [List.dropWhile_append_of_pos fun c hc => decide_eq_true (ne_point_of_isDigit (has c hc))]
    exact List.dropWhile_cons_of_neg (by simp)
  have hdigits : (as ++ '.' :: bs).filter Char.isDigit = as ++ bs := by
    rw [List.filter_append, List.filter_cons_of_neg (by decide), List.filter_eq_self.mpr has,
      List.filter_eq_self.mpr hbs]
  rw [magnitude, hpoint, hdigits, List.length_cons, Nat.add_sub_cancel]

lemma magnitude_minus (cs : List Char) : magnitude ('-' :: cs) = magnitude cs := rfl

end Numerals

section Layouts

variable {layout : Layout} {d : Decimal} {x : Float}

/-- The exponent of the first digit. -/
def leading (d : Decimal) : ℤ := d.exponent + (toString d.digits).length - 1

/-- A number without its sign. -/
def Layout.body (layout : Layout) (d : Decimal) : String :=
  if d.digits = 0 || (layout.plainFrom ≤ d.leading && d.leading < layout.plainBelow) then layout.plain d
  else layout.scientific d

lemma Layout.body_eq_plain (hlow : layout.plainFrom ≤ d.leading)
    (hhigh : d.leading < layout.plainBelow) :
    layout.body d = layout.plain d := by
  rw [Layout.body, decide_eq_true hlow, decide_eq_true hhigh, Bool.and_self, Bool.or_true, if_pos rfl]

lemma Layout.body_eq_scientific (hd : d.digits ≠ 0)
    (h : ¬ (layout.plainFrom ≤ d.leading ∧ d.leading < layout.plainBelow)) :
    layout.body d = layout.scientific d := by
  rw [Layout.body, if_neg]
  simpa [hd] using h

lemma Layout.text_finite (layout : Layout) (hx : x.isFinite = true) : layout.text x =
    (if signField x = 1 then "-" else "") ++ layout.body (shortest layout.tie x) := by
  have hunpacked : (Float.Model.UnpackedFloat.unpack .binary64 x.toBits.toBitVec).isFinite = true := hx
  have hnan : x.isNaN = false := by
    change (Float.Model.UnpackedFloat.unpack .binary64 x.toBits.toBitVec).isNaN = false
    generalize Float.Model.UnpackedFloat.unpack .binary64 x.toBits.toBitVec = f at hunpacked
    cases f <;> first | rfl | cases hunpacked
  have hinf : x.isInf = false := by
    change (Float.Model.UnpackedFloat.unpack .binary64 x.toBits.toBitVec).isInf = false
    generalize Float.Model.UnpackedFloat.unpack .binary64 x.toBits.toBitVec = f at hunpacked
    cases f <;> first | rfl | cases hunpacked
  rw [Layout.text, hnan, hinf, isNegative_iff]
  simp [Layout.body, leading]

lemma isDigit_of_mem_zeros {n : ℕ} {c : Char} (h : c ∈ List.replicate n '0') : c.isDigit = true := by
  rw [List.eq_of_mem_replicate h]
  rfl

lemma magnitude_zeros (n k : ℕ) :
    magnitude (Nat.toDigits 10 n ++ List.replicate k '0') = n * 10 ^ k := by
  rw [magnitude_whole fun c hc => (List.mem_append.mp hc).elim isDigit_of_mem_toDigits
    isDigit_of_mem_zeros, Nat.ofDigitChars_append, Nat.ofDigitChars_replicate_zero,
    Nat.ofDigitChars_ten_toDigits]
  push_cast
  ring

lemma value_of_neg {d : Decimal} {places : ℕ} (h : d.exponent = -places) :
    d.value = d.digits / 10 ^ places := by
  rw [value, h, zpow_neg, zpow_natCast, div_eq_mul_inv]

lemma Layout.magnitude_plain (hpoint : layout.keepsPoint = false) (d : Decimal) :
    magnitude (layout.plain d).toList = d.value := by
  simp only [Layout.plain, hpoint, zeros, Nat.toString_eq_ofList_toDigits, String.toList_ofList,
    String.length_ofList]
  by_cases hexponent : 0 ≤ d.exponent
  · rw [if_pos hexponent]
    simp only [Bool.false_eq_true, if_false, String.append_empty, String.toList_append,
      String.toList_ofList, magnitude_zeros]
    obtain ⟨k, hk⟩ := Int.eq_ofNat_of_zero_le hexponent
    rw [value, hk, zpow_natCast, Int.toNat_natCast]
    split_ifs with hzero
    · rw [hzero, Nat.cast_zero, zero_mul, zero_mul]
    · rfl
  · rw [if_neg hexponent]
    obtain ⟨places, hplaces⟩ : ∃ places : ℕ, d.exponent = -places := ⟨(-d.exponent).toNat, by omega⟩
    rw [value_of_neg hplaces, hplaces, neg_neg, Int.toNat_natCast]
    -- the point stands among the digits, or before them all
    split_ifs with hshort
    · have htext (as bs : List Char) :
          (String.ofList as ++ "." ++ String.ofList bs).toList = as ++ '.' :: bs := by simp
      rw [htext, magnitude_point (fun c hc => isDigit_of_mem_toDigits (List.mem_of_mem_take hc))
        (fun c hc => isDigit_of_mem_toDigits (List.mem_of_mem_drop hc)), List.take_append_drop,
        Nat.ofDigitChars_ten_toDigits, List.length_drop, Nat.sub_sub_self hshort.le]
    · have htext (as bs : List Char) :
          ("0." ++ String.ofList as ++ String.ofList bs).toList = ['0'] ++ '.' :: (as ++ bs) := by simp
      have hzeros (k : ℕ) (cs : List Char) :
          Nat.ofDigitChars 10 (['0'] ++ (List.replicate k '0' ++ cs)) 0 =
            Nat.ofDigitChars 10 cs 0 := by
        rw [Nat.ofDigitChars_append, Nat.ofDigitChars_append, Nat.ofDigitChars_replicate_zero]
        rfl
      rw [htext, magnitude_point (List.forall_mem_singleton.mpr rfl) fun c hc =>
        (List.mem_append.mp hc).elim isDigit_of_mem_zeros isDigit_of_mem_toDigits, hzeros,
        Nat.ofDigitChars_ten_toDigits, List.length_append, List.length_replicate,
        Nat.sub_add_cancel (not_lt.mp hshort)]

section Characters

variable {p : Char → Bool} (hp : ∀ c, c.isDigit = true → p c = true)

include hp

lemma all_of_sublist {cs : List Char} {n : ℕ} (h : cs.Sublist (Nat.toDigits 10 n)) : cs.all p = true :=
  List.all_eq_true.mpr fun c hc => hp c (isDigit_of_mem_toDigits (h.subset hc))

lemma all_toDigits (n : ℕ) : (Nat.toDigits 10 n).all p = true := all_of_sublist hp (.refl _)

lemma all_take (n k : ℕ) : ((Nat.toDigits 10 n).take k).all p = true :=
  all_of_sublist hp (List.take_sublist _ _)

lemma all_drop (n k : ℕ) : ((Nat.toDigits 10 n).drop k).all p = true :=
  all_of_sublist hp (List.drop_sublist _ _)

lemma all_zeros (n : ℕ) : (List.replicate n '0').all p = true :=
  List.all_eq_true.mpr fun c hc => hp c (isDigit_of_mem_zeros hc)

lemma Layout.plain_all (hpoint : p '.' = true) (layout : Layout) (d : Decimal) :
    (layout.plain d).toList.all p = true := by
  have hzero : p '0' = true := hp '0' rfl
  simp only [Layout.plain, Nat.toString_eq_ofList_toDigits, zeros]
  split_ifs <;> simp only [String.toList_append, String.toList_ofList, String.length_ofList,
    List.all_append, all_toDigits hp, all_take hp, all_drop hp, all_zeros hp] <;> simp [hzero, hpoint]

end Characters

lemma inNumeral_of_isDigit (c : Char) (h : c.isDigit = true) : inNumeral c = true := by
  rw [inNumeral, h]
  rfl

lemma Layout.plain_isNumeral (layout : Layout) (d : Decimal) : IsNumeral (layout.plain d) := by
  refine ⟨?_, Layout.plain_all inNumeral_of_isDigit rfl layout d⟩
  simp only [Layout.plain, Nat.toString_eq_ofList_toDigits]
  split_ifs <;> simp [zeros]

lemma Layout.scientific_isNumeral (layout : Layout) (d : Decimal) :
    IsNumeral (layout.scientific d) := by
  refine ⟨by simp [Layout.scientific], ?_⟩
  have hp := inNumeral_of_isDigit
  simp only [Layout.scientific, Nat.toString_eq_ofList_toDigits]
  split_ifs <;> simp only [String.toList_append, String.toList_ofList, List.all_append, all_toDigits hp,
    all_take hp, all_drop hp] <;> rfl

lemma Layout.text_isNumeral (layout : Layout) (hx : x.isFinite = true) :
    IsNumeral (layout.text x) := by
  have hbody : IsNumeral (layout.body (shortest layout.tie x)) := by
    rw [Layout.body]
    split_ifs
    · exact layout.plain_isNumeral _
    · exact layout.scientific_isNumeral _
  rw [layout.text_finite hx]
  refine ⟨by simp [hbody.nonempty], ?_⟩
  rw [String.toList_append, List.all_append, hbody.all]
  split_ifs <;> rfl

end Layouts

section Plain

variable {b : Binary} {d : Decimal} {q : ℚ} {x : Float}

/-- The number of digits. -/
def length (d : Decimal) : ℕ := (toString d.digits).length

lemma leading_eq (d : Decimal) : d.leading = d.exponent + d.length - 1 := rfl

lemma length_toDigits (d : Decimal) : (Nat.toDigits 10 d.digits).length = d.length := by
  rw [length, Nat.toString_eq_ofList_toDigits, String.length_ofList]

lemma length_pos (d : Decimal) : 0 < d.length := by
  rw [← length_toDigits]
  exact Nat.length_toDigits_pos

lemma length_le_iff {k : ℕ} (hk : 0 < k) : d.length ≤ k ↔ d.digits < 10 ^ k := by
  rw [← length_toDigits]
  exact Nat.length_toDigits_le_iff (by decide) hk

lemma leading_spec (hd : d.digits ≠ 0) :
    (10 : ℚ) ^ d.leading ≤ d.value ∧ d.value < 10 ^ (d.leading + 1) := by
  obtain ⟨k, hk⟩ := Nat.exists_eq_add_one.mpr d.length_pos
  have hhigh : d.digits < 10 ^ (k + 1) := (length_le_iff (by omega)).mp hk.le
  have hlow : 10 ^ k ≤ d.digits := by
    obtain rfl | hpos := Nat.eq_zero_or_pos k
    · exact Nat.one_le_iff_ne_zero.mpr hd
    · exact not_lt.mp fun hlt => absurd ((length_le_iff hpos).mpr hlt) (by omega)
  have hunit : (0 : ℚ) < 10 ^ d.exponent := by positivity
  have hlow' : (10 : ℚ) ^ k ≤ d.digits := by exact_mod_cast hlow
  have hhigh' : (d.digits : ℚ) < 10 ^ (k + 1) := by exact_mod_cast hhigh
  have hleading : d.leading = k + d.exponent := by
    rw [leading_eq, hk]
    push_cast
    ring
  rw [hleading, value, add_right_comm, zpow_add₀ (by norm_num), zpow_add₀ (by norm_num), zpow_natCast,
    ← Nat.cast_succ, zpow_natCast]
  exact ⟨mul_le_mul_of_nonneg_right hlow' hunit.le, mul_lt_mul_of_pos_right hhigh' hunit⟩

lemma Binary.RoundsTo.bounds (hb : b.Regular) (hpos : 0 < b.mantissa) (h : b.RoundsTo q) :
    (2 : ℚ) ^ (-1075 : ℤ) ≤ q ∧ q ≤ 2 ^ (1024 : ℤ) := by
  have hbelow : (b.below : ℚ) ≤ 2 := by exact_mod_cast hb.below_pos.2
  have hmantissa : (1 : ℚ) ≤ b.mantissa := by exact_mod_cast hpos
  have hfull : (b.mantissa : ℚ) + 1 ≤ 2 ^ 53 := by
    have := hb.mantissa_lt
    rw [leadingBit] at this
    exact_mod_cast this
  have hunit : (0 : ℚ) < 2 ^ (b.exponent - 2) := by positivity
  have hleast : (2 : ℚ) ^ (-1076 : ℤ) ≤ 2 ^ (b.exponent - 2) :=
    zpow_le_zpow_right₀ one_le_two (by have := hb.exponent_ge; omega)
  have hlargest : (2 : ℚ) ^ (b.exponent - 2) ≤ 2 ^ (969 : ℤ) :=
    zpow_le_zpow_right₀ one_le_two (by have := hb.exponent_le; omega)
  constructor
  · have hsplit : (2 : ℚ) ^ (-1075 : ℤ) = 2 * 2 ^ (-1076 : ℤ) := by
      rw [← zpow_one_add₀ two_ne_zero]
      rfl
    have hlow := h.low
    nlinarith
  · have hsplit : (2 : ℚ) ^ (1024 : ℤ) = 2 ^ 55 * 2 ^ (969 : ℤ) := by
      rw [← zpow_natCast, ← zpow_add₀ two_ne_zero]
      rfl
    rw [hsplit]
    exact h.high.trans (mul_le_mul (by linarith) hlargest hunit.le (by positivity))

lemma message_text (hx : x.isFinite = true) (hzero : (x == 0) = false) : Layout.message.text x =
    (if signField x = 1 then "-" else "") ++ Layout.message.plain (shortest .up x) := by
  have hb := regular_ofFloat hx
  have hpos := mantissa_pos hzero
  obtain ⟨hrounds, hdigits⟩ := roundsTo_shortest .up hx hzero
  obtain ⟨hleast, hlargest⟩ := hrounds.bounds hb hpos
  obtain ⟨hlow, hhigh⟩ := leading_spec (d := shortest .up x) (by rintro h; simp [h] at hdigits)
  have hten : (2 : ℚ) ^ (1024 : ℤ) < 10 ^ (400 : ℤ) := by
    have h : 2 ^ 1024 < 10 ^ 400 := by decide +kernel
    exact_mod_cast h
  have hten' : (10 : ℚ) ^ (-400 : ℤ) < 2 ^ (-1075 : ℤ) := by
    have h : 2 ^ 1075 < 10 ^ 400 := by decide +kernel
    rw [zpow_neg, zpow_neg]
    exact inv_strictAnti₀ (by positivity) (by exact_mod_cast h)
  have hfirst := (zpow_lt_zpow_iff_right₀ (by norm_num)).mp (hlow.trans_lt (hlargest.trans_lt hten))
  have hfirst' := (zpow_lt_zpow_iff_right₀ (by norm_num)).mp (hten'.trans (hleast.trans_lt hhigh))
  rw [Layout.message.text_finite hx]
  exact congrArg _ (Layout.body_eq_plain (Int.lt_add_one_iff.mp hfirst') hfirst)

end Plain

end Armature.Decimal

namespace Armature.Json

open Decimal

variable {m n : Number}

lemma toString_of_nonneg {n : ℤ} (h : 0 ≤ n) : toString n = toString n.natAbs := by
  cases n with
  | ofNat n => rfl
  | negSucc n => simp at h

lemma toString_of_neg {n : ℤ} (h : n < 0) : toString n = "-" ++ toString n.natAbs := by
  cases n with
  | ofNat n => exact absurd h (Int.natCast_nonneg n).not_gt
  | negSucc n => rfl

def isNegative (cs : List Char) : Prop := cs.head? = some '-'

lemma not_isNegative {cs : List Char} (h : cs.all (· != '-') = true) : ¬ isNegative cs := by
  intro hneg
  have hminus := List.all_eq_true.mp h '-' (List.mem_of_head? hneg)
  simp at hminus

lemma ne_minus_of_isDigit (c : Char) (h : c.isDigit = true) : (c != '-') = true := by
  rw [bne_iff_ne]
  rintro rfl
  revert h
  decide

lemma toString_isNumeral (n : ℤ) : IsNumeral (toString n) := by
  have hdigits := all_toDigits inNumeral_of_isDigit n.natAbs
  obtain hneg | hpos := lt_or_ge n 0
  · rw [toString_of_neg hneg]
    refine ⟨by simp, ?_⟩
    rw [String.toList_append, List.all_append, toList_toString, hdigits]
    rfl
  · rw [toString_of_nonneg hpos]
    exact ⟨by rw [toList_toString]; exact Nat.toDigits_ne_nil, by rw [toList_toString, hdigits]⟩

lemma canonicalNumber_float {x : Float} (hx : x.isFinite = true) :
    canonicalNumber (.float x) = if x == 0 then "0" else Layout.message.text x := by
  simp [canonicalNumber, hx]

lemma canonicalNumber_isNumeral (h : n.isProper = true) : IsNumeral (canonicalNumber n) := by
  cases n with
  | integer n => exact toString_isNumeral n
  | float x =>
    rw [canonicalNumber_float h]
    split_ifs
    · exact ⟨by decide, by decide⟩
    · exact Layout.message.text_isNumeral h

lemma magnitude_toString (n : ℤ) : magnitude (toString n).toList = n.natAbs := by
  have hdigits : magnitude (Nat.toDigits 10 n.natAbs) = n.natAbs := by
    rw [magnitude_whole fun c hc => isDigit_of_mem_toDigits hc, Nat.ofDigitChars_ten_toDigits]
  obtain hneg | hpos := lt_or_ge n 0
  · rw [toString_of_neg hneg, String.toList_append, toList_toString]
    exact (magnitude_minus _).trans hdigits
  · rw [toString_of_nonneg hpos, toList_toString, hdigits]

lemma isNegative_toString (n : ℤ) : isNegative (toString n).toList ↔ n < 0 := by
  obtain hneg | hpos := lt_or_ge n 0
  · rw [toString_of_neg hneg]
    simp [isNegative, hneg]
  · rw [toString_of_nonneg hpos, toList_toString]
    exact iff_of_false (not_isNegative (all_toDigits ne_minus_of_isDigit _)) hpos.not_gt

lemma message_reads {x : Float} (h : x.isFinite = true) (hzero : (x == 0) = false) :
    (Binary.ofFloat x).RoundsTo (magnitude (Layout.message.text x).toList) ∧
      (signField x = 1 ↔ isNegative (Layout.message.text x).toList) := by
  have hvalue := @Layout.magnitude_plain .message rfl (shortest .up x)
  have hminus : ¬ isNegative (Layout.message.plain (shortest .up x)).toList :=
    not_isNegative (Layout.plain_all ne_minus_of_isDigit rfl _ _)
  have hrounds := (roundsTo_shortest .up h hzero).1
  rw [message_text h hzero, String.toList_append]
  by_cases hsign : signField x = 1
  · rw [if_pos hsign]
    refine ⟨?_, iff_of_true hsign rfl⟩
    rw [show "-".toList = ['-'] from rfl, List.singleton_append, magnitude_minus, hvalue]
    exact hrounds
  · rw [if_neg hsign]
    refine ⟨?_, iff_of_false hsign hminus⟩
    rw [show "".toList = [] from rfl, List.nil_append, hvalue]
    exact hrounds

/-- The number is rounded from what its text stands for, and has the sign of its text. -/
lemma canonicalNumber_reads (h : n.isProper = true) :
    n.toFloat.isFinite = true ∧
      (Binary.ofFloat n.toFloat).RoundsTo (magnitude (canonicalNumber n).toList) ∧
      ((n.toFloat == 0) = false →
        (signField n.toFloat = 1 ↔ isNegative (canonicalNumber n).toList)) := by
  cases n with
  | integer n =>
    obtain ⟨hlow, hhigh⟩ := of_decide_eq_true h
    obtain ⟨hfinite, hsign, hrounds⟩ := Number.toFloat_integer hlow hhigh
    refine ⟨hfinite, ?_, fun _ => ?_⟩
    · rwa [canonicalNumber, magnitude_toString]
    · rw [canonicalNumber, isNegative_toString, hsign]
      simp
  | float x =>
    rw [canonicalNumber_float h]
    change x.isFinite = true ∧ (Binary.ofFloat x).RoundsTo _ ∧
      ((x == 0) = false → (signField x = 1 ↔ _))
    refine ⟨h, ?_⟩
    cases hzero : x == 0 with
    | true =>
      have hmagnitude : magnitude "0".toList = 0 := by
        rw [show "0" = toString (0 : ℤ) from rfl, magnitude_toString]
        rfl
      rw [if_pos rfl, hmagnitude]
      exact ⟨(roundsTo_zero_iff h).mpr hzero, fun hne => by cases hne⟩
    | false =>
      rw [if_neg Bool.false_ne_true]
      exact ⟨(message_reads h hzero).1, fun _ => (message_reads h hzero).2⟩

lemma beq_of_zeros {x y : Float} (hx : (x == 0) = true) (hy : (y == 0) = true) : (x == y) = true := by
  rw [Float.beq_iff_ne_nan_and_eq] at *
  obtain ⟨hx, -, hx'⟩ := hx
  obtain ⟨hy, -, hy'⟩ := hy
  have hne : (0 : Float) ≠ -0 := by decide +kernel
  grind

/-- Numbers with one text are the same up to the sign of a zero. -/
theorem beq_of_canonicalNumber (hm : m.isProper = true) (hn : n.isProper = true)
    (h : canonicalNumber m = canonicalNumber n) : (m.toFloat == n.toFloat) = true := by
  obtain ⟨hm, hmq, hmsign⟩ := canonicalNumber_reads hm
  obtain ⟨hn, hnq, hnsign⟩ := canonicalNumber_reads hn
  rw [h] at hmq hmsign
  generalize m.toFloat = x at *
  generalize n.toFloat = y at *
  have hbinary := hmq.unique (regular_ofFloat hm) (regular_ofFloat hn) hnq
  cases hzero : x == 0 with
  | true => exact beq_of_zeros hzero (mantissa_eq_zero.mp (hbinary ▸ mantissa_eq_zero.mpr hzero))
  | false =>
    have hzero' : (y == 0) = false := by
      rw [← Bool.not_eq_true, ← mantissa_eq_zero, ← hbinary, mantissa_eq_zero, hzero]
      exact Bool.false_ne_true
    have hsign : signField x = signField y := by
      have hiff : signField x = 1 ↔ signField y = 1 := (hmsign hzero).trans (hnsign hzero').symm
      have := signField_lt x
      have := signField_lt y
      omega
    rw [eq_of_roundsTo hm hn hsign hmq hnq]
    exact beq_self hn

end Armature.Json
