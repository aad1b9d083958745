import Armature.Proofs.NearestDecimals
import Armature.Proofs.UniqueReadings

/-! The canonical text beside the form of RFC 8785. They are the same but for the order of characters
beyond the basic plane and for numbers that are large, small or between two shortest decimals. -/

namespace Armature

namespace Decimal

/-- A decimal without its sign, as RFC 8785 takes it over from ECMAScript. -/
def jcs (d : Decimal) : List Char :=
  let digits := Nat.toDigits 10 d.digits
  -- where the point stands, counted from the first digit
  let point := d.exponent + digits.length
  if digits.length ≤ point ∧ point ≤ 21 then
    digits ++ List.replicate (point - digits.length).toNat '0'
  else if 0 < point ∧ point ≤ 21 then digits.take point.toNat ++ '.' :: digits.drop point.toNat
  else if -6 < point ∧ point ≤ 0 then '0' :: '.' :: (List.replicate (-point).toNat '0' ++ digits)
  else
    digits.take 1 ++ (if digits.length = 1 then [] else '.' :: digits.drop 1) ++
      'e' :: (if point < 1 then '-' else '+') :: Nat.toDigits 10 (point - 1).natAbs

def IsPlain (d : Decimal) : Prop := -6 ≤ d.leading ∧ d.leading < 21

instance (d : Decimal) : Decidable d.IsPlain := inferInstanceAs (Decidable (_ ∧ _))

end Decimal

namespace Json

open Decimal

/-- The text of the floating-point number that a number denotes, of the decimal that represents it
(`represents_shortest`). -/
def jcsNumber (n : Number) : String :=
  if n.toFloat == 0 then "0"
  else
    (if signField n.toFloat = 1 then "-" else "") ++ String.ofList (shortest .even n.toFloat).jcs

/-- The characters that have an escape of two characters, and its letter. -/
def jcsEscapes : List (Char × Char) :=
  [('\x08', 'b'), ('\t', 't'), ('\n', 'n'), ('\x0c', 'f'), ('\r', 'r'), ('"', '"'), ('\\', '\\')]

def jcsEscape (c : Char) : List Char :=
  match jcsEscapes.lookup c with
  | some letter => ['\\', letter]
  | none =>
    if c.toNat < 0x20 then
      '\\' :: 'u' :: [3, 2, 1, 0].map fun i => Nat.digitChar (c.toNat / 16 ^ i % 16)
    else [c]

def jcsQuote (s : String) : String := String.ofList ('"' :: s.toList.flatMap jcsEscape ++ ['"'])

def codeUnits (s : String) : List ℕ :=
  s.toList.flatMap fun c =>
    let offset := c.toNat - 0x10000
    if c.toNat < 0x10000 then [c.toNat] else [0xD800 + offset / 0x400, 0xDC00 + offset % 0x400]

/-- The order of code units of UTF-16. -/
def byCodeUnits (a b : String) : Bool := !decide (codeUnits b < codeUnits a)

/-- The form of RFC 8785. -/
def jcs (v : Json) : String := String.ofList (spelled jcsQuote jcsNumber (arranged byCodeUnits v))

section Strings

lemma jcsEscape_eq (c : Char) : jcsEscape c = escape c := by
  rw [escape]
  split_ifs with hquote hbackslash hn hr ht hb hf hcontrol
  all_goals try (subst c; rfl)
  all_goals
    have hnone : jcsEscapes.lookup c = none :=
      List.lookup_eq_none_iff.mpr (by simp [jcsEscapes, hquote, hbackslash, hn, hr, ht, hb, hf])
  · have hhigh : c.toNat / 16 ^ 3 % 16 = 0 ∧ c.toNat / 16 ^ 2 % 16 = 0 ∧
        c.toNat / 16 ^ 1 % 16 = c.toNat / 16 := by omega
    simp only [jcsEscape, hnone, if_pos hcontrol, List.map_cons, List.map_nil, hhigh, pow_zero,
      Nat.div_one]
    rfl
  · simp only [jcsEscape, hnone, if_neg hcontrol]

lemma jcsQuote_eq : jcsQuote = quote := by
  funext s
  rw [jcsQuote, quote, funext jcsEscape_eq]

end Strings

end Json

namespace Decimal

section Bodies

variable {d : Decimal} {n : ℕ}

/-- The limits of RFC 8785. -/
def Layout.jcs : Layout := ⟨-6, 21, false, true, .even⟩

lemma jcs_eq_plain (hd : d.digits ≠ 0) (h : d.IsPlain) : d.jcs = (Layout.jcs.plain d).toList := by
  rw [IsPlain, leading_eq, ← length_toDigits] at h
  rw [Decimal.jcs, Layout.plain]
  simp only [Nat.toString_eq_ofList_toDigits, String.length_ofList, String.toList_ofList]
  generalize Nat.toDigits 10 d.digits = digits at *
  by_cases hexponent : 0 ≤ d.exponent
  · have hpoint : (digits.length : ℤ) ≤ d.exponent + digits.length ∧
        d.exponent + digits.length ≤ 21 := by omega
    rw [if_pos hpoint, if_pos hexponent, if_neg hd]
    simp [zeros, Layout.jcs]
  · -- the last digits stand behind the point, perhaps all of them and some zeros
    obtain ⟨places, hplaces⟩ : ∃ places : ℕ, d.exponent = -places :=
      ⟨(-d.exponent).toNat, by omega⟩
    rw [hplaces] at h hexponent ⊢
    rw [if_neg (by omega), if_neg hexponent, neg_neg, Int.toNat_natCast]
    by_cases hshort : places < digits.length
    · have hwhole : (-(places : ℤ) + digits.length).toNat = digits.length - places := by omega
      rw [if_pos (by omega), if_pos hshort, hwhole]
      simp
    · have hzeros : (-(-(places : ℤ) + digits.length)).toNat = places - digits.length := by omega
      rw [if_neg (by omega), if_pos (by omega), if_neg hshort, hzeros]
      simp [zeros]

lemma jcs_eq_scientific (h : ¬ d.IsPlain) : d.jcs = (Layout.jcs.scientific d).toList := by
  have hlength := d.length_pos
  rw [← length_toDigits] at hlength
  rw [Decimal.jcs, Layout.scientific]
  rw [IsPlain, leading_eq, ← length_toDigits] at h
  simp only [Nat.toString_eq_ofList_toDigits, String.toList_ofList]
  generalize Nat.toDigits 10 d.digits = digits at *
  have hfraction : (String.ofList (digits.drop 1)).isEmpty = true ↔ digits.length = 1 := by
    rw [String.isEmpty_iff, ← String.toList_inj, String.toList_ofList, String.toList_empty,
      List.drop_eq_nil_iff]
    omega
  have hsign : d.exponent + digits.length - 1 < 0 ↔ d.exponent + digits.length < 1 := by omega
  rw [if_neg (by omega), if_neg (by omega), if_neg (by omega)]
  simp only [hfraction, hsign]
  split_ifs <;> simp_all [Layout.jcs]

lemma jcs_eq (hd : d.digits ≠ 0) : d.jcs = (Layout.jcs.body d).toList := by
  by_cases h : d.IsPlain
  · rw [Layout.body_eq_plain h.1 h.2, jcs_eq_plain hd h]
  · rw [@Layout.body_eq_scientific .jcs d hd h, jcs_eq_scientific h]

lemma jcs_body_plain (h : d.IsPlain) : Layout.jcs.body d = Layout.message.plain d :=
  Layout.body_eq_plain h.1 h.2

lemma mem_jcs_body (hd : d.digits % 10 ≠ 0) (h : ¬ d.IsPlain) : 'e' ∈ (Layout.jcs.body d).toList := by
  have hne : d.digits ≠ 0 := fun hzero => hd (by rw [hzero])
  rw [@Layout.body_eq_scientific .jcs d hne h]
  simp [Layout.scientific]

lemma notMem_of_all {cs : List Char} (h : cs.all (· != 'e') = true) : 'e' ∉ cs := fun he => by
  have hne := List.all_eq_true.mp h 'e' he
  simp at hne

lemma ne_e_of_isDigit (c : Char) (h : c.isDigit = true) : (c != 'e') = true := by
  rw [bne_iff_ne]
  rintro rfl
  revert h
  decide

lemma plain_eq_jcs_body {d' : Decimal} (hd : d.digits % 10 ≠ 0) (hd' : d'.digits % 10 ≠ 0) :
    Layout.message.plain d = Layout.jcs.body d' ↔ d = d' ∧ d'.IsPlain := by
  constructor
  · intro h
    have hplain : d'.IsPlain := by
      by_contra hnot
      refine notMem_of_all (Layout.plain_all ne_e_of_isDigit rfl .message d) ?_
      rw [h]
      exact mem_jcs_body hd' hnot
    rw [jcs_body_plain hplain] at h
    have hvalue : d.value = d'.value := by
      rw [← @Layout.magnitude_plain .message rfl, h, Layout.magnitude_plain rfl]
    exact ⟨eq_of_value hd hd' hvalue, hplain⟩
  · rintro ⟨rfl, hplain⟩
    rw [jcs_body_plain hplain]

lemma toDigits_zeros {m : ℕ} (hm : 0 < m) (k : ℕ) :
    Nat.toDigits 10 m ++ List.replicate k '0' = Nat.toDigits 10 (m * 10 ^ k) := by
  induction k with
  | zero => simp
  | succ k ih =>
    have hlast := Nat.toDigits_append_toDigits (b := 10) (n := m * 10 ^ k) (d := 0) (by decide)
      (by positivity) (by decide)
    rw [List.replicate_succ', ← List.append_assoc, ih, pow_succ, ← mul_assoc, mul_comm _ 10]
    exact hlast

lemma exponent_nonneg (hd : d.digits % 10 ≠ 0) (h : d.value = n) : 0 ≤ d.exponent :=
  @exponent_le_of_value d ⟨n, 0⟩ hd (by rw [h, value]; simp)

lemma value_eq_iff (hd : d.digits % 10 ≠ 0) :
    d.value = n ↔ 0 ≤ d.exponent ∧ d.digits * 10 ^ d.exponent.toNat = n := by
  have hvalue (h : 0 ≤ d.exponent) : d.value = (d.digits * 10 ^ d.exponent.toNat : ℕ) := by
    obtain ⟨k, hk⟩ := Int.eq_ofNat_of_zero_le h
    rw [value, hk, Int.toNat_natCast, zpow_natCast]
    push_cast
    rfl
  constructor
  · intro h
    have hexponent := exponent_nonneg hd h
    rw [hvalue hexponent] at h
    exact ⟨hexponent, by exact_mod_cast h⟩
  · rintro ⟨hexponent, h⟩
    rw [hvalue hexponent, h]

lemma toString_eq_jcs_body (hn : n < 10 ^ 21) (hd : d.digits % 10 ≠ 0) :
    toString n = Layout.jcs.body d ↔ 0 ≤ d.exponent ∧ d.digits * 10 ^ d.exponent.toNat = n := by
  have hpos : 0 < d.digits := Nat.pos_of_ne_zero fun hzero => hd (by rw [hzero])
  constructor
  · intro h
    have hplain : d.IsPlain := by
      by_contra hnot
      refine notMem_of_all (all_toDigits ne_e_of_isDigit n) ?_
      rw [← toList_toString, h]
      exact mem_jcs_body hd hnot
    rw [← value_eq_iff hd, ← @Layout.magnitude_plain .message rfl, ← jcs_body_plain hplain, ← h,
      toList_toString, magnitude_whole fun c hc => isDigit_of_mem_toDigits hc,
      Nat.ofDigitChars_ten_toDigits]
  · rintro ⟨hexponent, h⟩
    have hvalue := (value_eq_iff hd).mpr ⟨hexponent, h⟩
    obtain ⟨hlow, -⟩ := leading_spec hpos.ne'
    have hhigh : (n : ℚ) < 10 ^ (21 : ℤ) := by exact_mod_cast hn
    have hleading := (zpow_lt_zpow_iff_right₀ (by norm_num)).mp (hlow.trans_lt (hvalue ▸ hhigh))
    have hlength := d.length_pos
    have hplain : d.IsPlain := ⟨by rw [leading_eq]; omega, hleading⟩
    rw [jcs_body_plain hplain, ← String.toList_inj, toList_toString]
    simp [Layout.plain, hexponent, hpos.ne', zeros, toDigits_zeros hpos, h, Layout.message]

end Bodies

end Decimal

section Numbers

open Decimal

/-- The numbers that have one form: those within the limits of which the shortest decimal is not one of
two, and of the whole numbers those that are the shortest decimal of what they denote. -/
def Number.Conforms : Number → Prop
  | .integer n =>
    let d := shortest .even (Number.integer n).toFloat
    n = 0 ∨ 0 ≤ d.exponent ∧ d.digits * 10 ^ d.exponent.toNat = n.natAbs
  | .float x => (x == 0) = true ∨ shortest .up x = shortest .even x ∧ (shortest .even x).IsPlain

lemma jcs_text {x : Float} (hx : x.isFinite = true) : Layout.jcs.text x =
    (if signField x = 1 then "-" else "") ++ Layout.jcs.body (shortest .even x) :=
  Layout.jcs.text_finite hx

lemma jcsNumber_eq {n : Number} (hn : n.toFloat.isFinite = true) :
    Json.jcsNumber n = if n.toFloat == 0 then "0" else Layout.jcs.text n.toFloat := by
  rw [Json.jcsNumber]
  cases hzero : n.toFloat == 0 with
  | true => rfl
  | false =>
    have hdigits := (roundsTo_shortest .even hn hzero).2
    rw [jcs_text hn, jcs_eq fun h => hdigits (by rw [h]), String.ofList_toList]

lemma conforms_float {x : Float} (hx : x.isFinite = true) :
    Json.canonicalNumber (.float x) = Json.jcsNumber (.float x) ↔ (Number.float x).Conforms := by
  rw [Json.canonicalNumber_float hx, @jcsNumber_eq (.float x) hx, Number.Conforms]
  change (_ = if x == 0 then _ else Layout.jcs.text x) ↔ _
  cases hzero : x == 0 with
  | true => simp
  | false =>
    obtain ⟨-, hup⟩ := roundsTo_shortest .up hx hzero
    obtain ⟨-, heven⟩ := roundsTo_shortest .even hx hzero
    simp only [Bool.false_eq_true, if_false, false_or, message_text hx hzero, jcs_text hx]
    rw [String.append_right_inj, plain_eq_jcs_body hup heven]

lemma toFloat_ne_zero {n : ℤ} (h : (Number.integer n).isProper = true) (hn : n ≠ 0) :
    ((Number.integer n).toFloat == 0) = false := by
  obtain ⟨hlow, hhigh⟩ := of_decide_eq_true h
  obtain ⟨hfinite, -, hrounds⟩ := Number.toFloat_integer hlow hhigh
  by_contra hzero
  rw [Bool.not_eq_false, ← mantissa_eq_zero] at hzero
  have hexponent := (regular_ofFloat hfinite).full.resolve_left (by rw [hzero]; decide)
  have hsmall := hrounds.high
  have hlarge : (1 : ℚ) ≤ n.natAbs := by exact_mod_cast Int.natAbs_pos.mpr hn
  have hunit : (2 : ℚ) ^ (-1074 - 2 : ℤ) ≤ 2 ^ (-2 : ℤ) := zpow_le_zpow_right₀ one_le_two (by decide)
  have hquarter : (2 : ℚ) ^ (-2 : ℤ) = 1 / 4 := by norm_num
  rw [hzero, hexponent, Nat.cast_zero, mul_zero, zero_add] at hsmall
  rw [hquarter] at hunit
  generalize (2 : ℚ) ^ (-1074 - 2 : ℤ) = unit at hunit hsmall
  linarith

lemma conforms_integer {n : ℤ} (h : (Number.integer n).isProper = true) :
    Json.canonicalNumber (.integer n) = Json.jcsNumber (.integer n) ↔ (Number.integer n).Conforms := by
  obtain ⟨hlow, hhigh⟩ := of_decide_eq_true h
  obtain ⟨hfinite, hsign, hrounds⟩ := Number.toFloat_integer hlow hhigh
  rw [Json.canonicalNumber, jcsNumber_eq hfinite, Number.Conforms]
  obtain rfl | hn := eq_or_ne n 0
  · have hzero : ((Number.integer 0).toFloat == 0) = true := by decide +kernel
    rw [hzero]
    exact iff_of_true rfl (.inl rfl)
  · have hzero := toFloat_ne_zero h hn
    obtain ⟨-, heven⟩ := roundsTo_shortest .even hfinite hzero
    -- whole numbers that are read in are too small for the scientific form
    have hsize : n.natAbs < 10 ^ 21 := by
      rw [UInt64.size] at hlow hhigh
      omega
    have htext : toString n = (if n < 0 then "-" else "") ++ toString n.natAbs := by
      split_ifs with hneg
      · exact Json.toString_of_neg hneg
      · rw [Json.toString_of_nonneg (not_lt.mp hneg), String.empty_append]
    have hsigns : (if signField (Number.integer n).toFloat = 1 then "-" else "") =
        if n < 0 then "-" else "" := by
      rw [hsign]
      split_ifs <;> simp_all
    rw [hzero, if_neg Bool.false_ne_true, jcs_text hfinite, hsigns, htext, String.append_right_inj,
      toString_eq_jcs_body hsize heven]
    simp [hn]

/-- Whole numbers of at most 53 bits have one form. -/
theorem Number.conforms_of_lt {n : ℤ} (h : n.natAbs < 2 ^ 53) : (Number.integer n).Conforms := by
  obtain rfl | hn := eq_or_ne n 0
  · exact .inl rfl
  have hproper : (Number.integer n).isProper = true := decide_eq_true (by rw [UInt64.size]; omega)
  obtain ⟨hlow, hhigh⟩ := of_decide_eq_true hproper
  obtain ⟨hfinite, -, hrounds⟩ := Number.toFloat_integer hlow hhigh
  have hzero := toFloat_ne_zero hproper hn
  have hvalue := (represents_shortest .even hfinite hzero).value_whole (regular_ofFloat hfinite)
    (Int.natAbs_ne_zero.mpr hn) h hrounds
  exact .inr ((value_eq_iff (roundsTo_shortest .even hfinite hzero).2).mp hvalue)

lemma conforms_iff {n : Number} (h : n.isProper = true) :
    Json.canonicalNumber n = Json.jcsNumber n ↔ n.Conforms := by
  cases n with
  | integer n => exact conforms_integer h
  | float x => exact conforms_float h

end Numbers

namespace Json

mutual

/-- Whether a value has one form: all its numbers do, and the keys of each object come in one order. -/
def Conforms : Json → Prop
  | number n => n.Conforms
  | array items => ItemsConform items
  | object members =>
    (arrangedBy byCharacters members).map Prod.fst = (arrangedBy byCodeUnits members).map Prod.fst ∧
      MembersConform members
  | _ => True

def ItemsConform : List Json → Prop
  | [] => True
  | item :: rest => Conforms item ∧ ItemsConform rest

def MembersConform : List (String × Json) → Prop
  | [] => True
  | (_, value) :: rest => Conforms value ∧ MembersConform rest

end

section Keys

def IsBasic (s : String) : Prop := ∀ c ∈ s.toList, c.toNat < 0x10000

lemma IsBasic.codeUnits {s : String} (h : IsBasic s) : codeUnits s = s.toList.map Char.toNat := by
  rw [Json.codeUnits, List.map_eq_flatMap]
  exact List.flatMap_congr fun c hc => if_pos (h c hc)

lemma byCodeUnits_eq {a b : String} (ha : IsBasic a) (hb : IsBasic b) :
    byCodeUnits a b = byCharacters a b := by
  have hmap (s t : List Char) (h : s < t) : s.map Char.toNat < t.map Char.toNat :=
    List.map_lt (fun _ _ hcd => hcd) h
  have horder : codeUnits b < codeUnits a ↔ b < a := by
    rw [ha.codeUnits, hb.codeUnits, String.lt_iff_toList_lt]
    refine ⟨fun h => ?_, hmap _ _⟩
    obtain hlt | heq | hgt := lt_trichotomy b.toList a.toList
    · exact hlt
    · rw [heq] at h
      exact absurd h (lt_irrefl _)
    · exact absurd (hmap _ _ hgt) (lt_asymm h)
  rw [byCodeUnits, byCharacters, decide_eq_decide.mpr horder]

/-- Keys without characters beyond the basic plane have one order. -/
theorem keys_conform {members : List (String × Json)} (h : ∀ member ∈ members, IsBasic member.1) :
    (arrangedBy byCharacters members).map Prod.fst = (arrangedBy byCodeUnits members).map Prod.fst := by
  have hsorted : (arrangedBy byCharacters members).map id = arrangedBy byCodeUnits (members.map id) :=
    List.map_mergeSort fun a ha b hb => (byCodeUnits_eq (h a ha) (h b hb)).symm
  rw [List.map_id, List.map_id] at hsorted
  rw [hsorted]

end Keys

section Aligned

variable {f g : Number → String} {related : Number → Number → Prop}

mutual

lemma spelled_eq_of_aligned (h : ∀ m n, related m n → f m = g n) :
    (v w : Json) → Aligned related v w → spelled quote f v = spelled quote g w
  | null, null, _ => rfl
  | bool _, bool _, hvw => by rw [spelled, spelled, show _ = _ from hvw]
  | number m, number n, hvw => congrArg String.toList (h m n hvw)
  | text _, text _, hvw => by rw [spelled, spelled, show _ = _ from hvw]
  | array as, array bs, hvw => by rw [spelled, spelled, spelledItems_eq_of_aligned h as bs hvw]
  | object as, object bs, hvw => by rw [spelled, spelled, spelledMembers_eq_of_aligned h as bs hvw]

lemma spelledItems_eq_of_aligned (h : ∀ m n, related m n → f m = g n) :
    (as bs : List Json) → AlignedItems related as bs → spelledItems quote f as = spelledItems quote g bs
  | [], [], _ => rfl
  | a :: as, b :: bs, ⟨hab, hrest⟩ => by
    rw [spelledItems, spelledItems, spelled_eq_of_aligned h a b hab,
      spelledItems_eq_of_aligned h as bs hrest]

lemma spelledMembers_eq_of_aligned (h : ∀ m n, related m n → f m = g n) :
    (as bs : List (String × Json)) → AlignedMembers related as bs →
      spelledMembers quote f as = spelledMembers quote g bs
  | [], [], _ => rfl
  | (_, a) :: as, (_, b) :: bs, ⟨hkey, hab, hrest⟩ => by
    rw [spelledMembers, spelledMembers, hkey, spelled_eq_of_aligned h a b hab,
      spelledMembers_eq_of_aligned h as bs hrest]

end

lemma alignedMembers_map {members : List (String × Json)} {write write' : Json → Json} :
    AlignedMembers related (members.map fun member => (member.1, write member.2))
        (members.map fun member => (member.1, write' member.2)) ↔
      ∀ member ∈ members, Aligned related (write member.2) (write' member.2) := by
  induction members with
  | nil => simp [AlignedMembers]
  | cons member rest ih => simp [AlignedMembers, ih]

lemma arrangedBy_eq {before before' : String → String → Bool} {members : List (String × Json)}
    (hkeys : (members.map Prod.fst).Nodup)
    (h : (arrangedBy before members).map Prod.fst = (arrangedBy before' members).map Prod.fst) :
    arrangedBy before members = arrangedBy before' members := by
  have hlength : (arrangedBy before members).length = (arrangedBy before' members).length := by
    simpa using congrArg List.length h
  refine List.ext_getElem hlength fun i hi hi' => ?_
  have hkey : (arrangedBy before members)[i].1 = (arrangedBy before' members)[i].1 := by
    have hget := List.getElem_of_eq h (by rwa [List.length_map] : i < _)
    simpa using hget
  exact List.inj_on_of_nodup_map hkeys ((arrangedBy_perm members).mem_iff.mp (List.getElem_mem hi))
    ((arrangedBy_perm members).mem_iff.mp (List.getElem_mem hi')) hkey

end Aligned

mutual

lemma aligned_iff_conforms : (v : Json) → v.isProper = true →
    (Aligned (fun m n => canonicalNumber m = jcsNumber n) (arranged byCharacters v)
      (arranged byCodeUnits v) ↔ v.Conforms)
  | null, _ => Iff.rfl
  | bool b, _ => iff_of_true rfl trivial
  | text s, _ => iff_of_true rfl trivial
  | number n, h => conforms_iff h
  | array items, h => alignedItems_iff_conform items h
  | object members, h => by
    obtain ⟨hkeys, hproper⟩ := proper_object.mp h
    have hmembers := aligned_iff_membersConform members hproper
    rw [arranged, arranged, Aligned, arrangedBy_arrangedMembers, arrangedBy_arrangedMembers, Conforms,
      ← hmembers]
    constructor
    · intro haligned
      have hsorted := arrangedBy_eq hkeys (by simpa [Function.comp_def] using haligned.alike.keys_eq)
      rw [hsorted, alignedMembers_map] at haligned
      exact ⟨congrArg _ hsorted, fun m hm => haligned m ((arrangedBy_perm members).mem_iff.mpr hm)⟩
    · rintro ⟨hsorted, haligned⟩
      rw [arrangedBy_eq hkeys hsorted, alignedMembers_map]
      exact fun m hm => haligned m ((arrangedBy_perm members).mem_iff.mp hm)

lemma alignedItems_iff_conform : (items : List Json) → areProper items = true →
    (AlignedItems (fun m n => canonicalNumber m = jcsNumber n) (arrangedItems byCharacters items)
      (arrangedItems byCodeUnits items) ↔ ItemsConform items)
  | [], _ => Iff.rfl
  | item :: rest, h => by
    rw [areProper, Bool.and_eq_true] at h
    exact and_congr (aligned_iff_conforms item h.1) (alignedItems_iff_conform rest h.2)

lemma aligned_iff_membersConform : (members : List (String × Json)) → membersProper members = true →
    ((∀ member ∈ members, Aligned (fun m n => canonicalNumber m = jcsNumber n)
      (arranged byCharacters member.2) (arranged byCodeUnits member.2)) ↔ MembersConform members)
  | [], _ => by simp [MembersConform]
  | (_, value) :: rest, h => by
    rw [membersProper, Bool.and_eq_true] at h
    rw [List.forall_mem_cons, MembersConform]
    exact and_congr (aligned_iff_conforms value h.1) (aligned_iff_membersConform rest h.2)

end

open Decimal in
lemma jcsNumber_isNumeral {n : Number} (h : n.isProper = true) : IsNumeral (jcsNumber n) := by
  rw [jcsNumber_eq (canonicalNumber_reads h).1]
  split_ifs
  · exact ⟨by decide, by decide⟩
  · exact Layout.jcs.text_isNumeral (canonicalNumber_reads h).1

/-- The canonical text is in the form of RFC 8785 where there is no difference between the two orders of
keys and the two ways to write a number, and nowhere else. -/
theorem canonical_eq_jcs_iff {v : Json} (h : v.isProper = true) : v.canonical = v.jcs ↔ v.Conforms := by
  rw [← aligned_iff_conforms v h, canonical_eq, jcs, jcsQuote_eq, String.ofList_inj]
  constructor
  · intro htexts
    have hnumerals : Numerals canonicalNumber jcsNumber fun m n => canonicalNumber m = jcsNumber n :=
      ⟨fun _ => canonicalNumber_isNumeral, fun _ => jcsNumber_isNumeral, fun _ _ _ _ hmn => hmn⟩
    have hleft := proper_of_reordered _ _ h (@reordered_arranged byCharacters v)
    have hright := proper_of_reordered _ _ h (@reordered_arranged byCodeUnits v)
    exact (spelled_unique hnumerals _ _ hleft hright ends_nil ends_nil (by rw [htexts])).1
  · exact spelled_eq_of_aligned (fun _ _ hmn => hmn) _ _

/-- A value with numbers of both kinds and with keys out of order. -/
def halves : Json :=
  array [number (.float 0.5), number (.integer (-3)), object [("b", null), ("a", text "\n")]]

theorem canonical_eq_jcs_iff_halves :
    halves.isProper = true ∧ halves.Conforms ∧ halves.canonical = halves.jcs := by
  have hproper : halves.isProper = true := by decide +kernel
  have hbasic : ∀ member ∈ [("b", null), ("a", text "\n")], IsBasic member.1 := by
    simp [IsBasic]
  have hconforms : halves.Conforms :=
    ⟨.inr ⟨by decide +kernel, by decide +kernel⟩, Number.conforms_of_lt (by decide),
      ⟨keys_conform hbasic, trivial, trivial, trivial⟩, trivial⟩
  exact ⟨hproper, hconforms, (canonical_eq_jcs_iff hproper).mpr hconforms⟩

/-- A private character and one beyond the basic plane. -/
def strangers : Json := object [("\ue000", null), ("😀", null)]

theorem canonical_ne_jcs :
    (number (.float 1e21)).canonical ≠ (number (.float 1e21)).jcs ∧
      (number (.float 1e-7)).canonical ≠ (number (.float 1e-7)).jcs ∧
      (number (.integer 9007199254740993)).canonical ≠ (number (.integer 9007199254740993)).jcs ∧
      strangers.canonical ≠ strangers.jcs := by
  refine ⟨by decide +kernel, by decide +kernel, by decide +kernel, ?_⟩
  have hcharacters : byCharacters "\ue000" "😀" = true := by decide +kernel
  have hunits : byCodeUnits "\ue000" "😀" = false := by decide +kernel
  have hcanonical : arranged byCharacters strangers = strangers := by
    simp [strangers, arranged, arrangedMembers, arrangedBy, List.mergeSort, hcharacters]
  have hjcs : arranged byCodeUnits strangers = object [("😀", null), ("\ue000", null)] := by
    simp [strangers, arranged, arrangedMembers, arrangedBy, List.mergeSort, hunits]
  rw [canonical_eq, jcs, hcanonical, hjcs]
  decide +kernel

end Json

end Armature
