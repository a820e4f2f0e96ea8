import SeriesDecoding.Proofs.RoundRatio

namespace SeriesDecoding.Binary64

open Float.Model UnpackedFloat

namespace Mantissa

-- An extended mantissa, which the float model rounds from, stands for the ratio `num / den`: its
-- mantissa is the quotient, and its round and sticky bits say where the remainder lies against half
-- of `den`.
def Approximates (em : ExtendedMantissa) (num den : Nat) : Prop :=
  em.mantissa = num / den ∧ em.accuracy = accuracyOfFraction (num % den) den

@[simp]
theorem mantissa_ofMantissaAndAccuracy (m : Nat) (acc : Accuracy) :
    (ExtendedMantissa.ofMantissaAndAccuracy m acc).mantissa = m := by
  cases acc with
  | exact => rfl
  | inexact o => cases o <;> rfl

@[simp]
theorem accuracy_ofMantissaAndAccuracy (m : Nat) (acc : Accuracy) :
    (ExtendedMantissa.ofMantissaAndAccuracy m acc).accuracy = acc := by
  cases acc with
  | exact => rfl
  | inexact o => cases o <;> rfl

theorem approximates_exact (m : Nat) : Approximates (.ofMantissaAndAccuracy m .exact) m 1 := by
  simp [Approximates, accuracyOfFraction, Nat.mod_one]

-- The residual bits of a remainder `r` below the divisor: the round bit says `r` is at least half
-- of it, and the sticky bit that `r` is neither zero nor exactly half.
theorem accuracy_eq_iff {em : ExtendedMantissa} {r den : Nat} (hr : r < den) :
    em.accuracy = accuracyOfFraction r den ↔
      em.roundBit = decide (den ≤ 2 * r) ∧ em.stickyBit = decide (r ≠ 0 ∧ 2 * r ≠ den) := by
  obtain ⟨m, rb, sb⟩ := em
  unfold accuracyOfFraction
  by_cases h0 : r = 0
  · subst h0
    cases rb <;> cases sb <;> simp [ExtendedMantissa.accuracy] <;> omega
  · rw [if_neg h0]
    rcases Nat.lt_trichotomy (2 * r) den with hlt | heq | hgt
    · rw [Nat.compare_eq_lt.2 hlt]
      cases rb <;> cases sb <;> simp [ExtendedMantissa.accuracy, h0] <;> omega
    · rw [Nat.compare_eq_eq.2 heq]
      cases rb <;> cases sb <;> simp [ExtendedMantissa.accuracy, h0] <;> omega
    · rw [Nat.compare_eq_gt.2 hgt]
      cases rb <;> cases sb <;> simp [ExtendedMantissa.accuracy, h0] <;> omega

-- The step: shifting out one bit halves the ratio, and the bit shifted out becomes the round bit.
theorem Approximates.shiftRightOne {em : ExtendedMantissa} {num den : Nat}
    (h : Approximates em num den) (hden : 0 < den) :
    Approximates em.shiftRightOne num (den * 2) := by
  obtain ⟨hm, hacc⟩ := h
  have hr := Nat.mod_lt num hden
  obtain ⟨hrb, hsb⟩ := (accuracy_eq_iff hr).1 hacc
  -- the new remainder is the old one, plus the divisor when the bit shifted out is one
  have hmod : num % (den * 2) = num % den + den * (num / den % 2) := Nat.mod_mul
  refine ⟨by simp [ExtendedMantissa.shiftRightOne, hm, Nat.div_div_eq_div_mul], ?_⟩
  rw [accuracy_eq_iff (Nat.mod_lt num (by omega)), hmod]
  simp only [ExtendedMantissa.shiftRightOne, hm, hrb, hsb]
  generalize num % den = r at hr ⊢
  rcases Nat.mod_two_eq_zero_or_one (num / den) with hb | hb <;> simp only [hb] <;>
    refine ⟨by simp; omega, ?_⟩ <;> rw [← Bool.decide_or, decide_eq_decide] <;> omega

-- The run: shifting out `k` bits divides the ratio by `2 ^ k`.
theorem Approximates.shiftRight {em : ExtendedMantissa} {num den : Nat}
    (h : Approximates em num den) (hden : 0 < den) (k : Nat) :
    Approximates (em >>> k) num (den * 2 ^ k) := by
  change Approximates (k.repeat ExtendedMantissa.shiftRightOne em) _ _
  induction k with
  | zero => simpa [Nat.repeat] using h
  | succ k ih =>
    rw [Nat.repeat, Nat.pow_succ, ← Nat.mul_assoc]
    exact ih.shiftRightOne (by positivity)

-- Rounding the mantissa by its residual bits rounds the ratio to the nearest integer, a tie going
-- to the even one.
theorem Approximates.roundedMantissa {em : ExtendedMantissa} {num den : Nat}
    (h : Approximates em num den) (hden : 0 < den) :
    em.roundedMantissa = roundHalfEven num den := by
  obtain ⟨hm, hacc⟩ := h
  have hr := Nat.mod_lt num hden
  unfold ExtendedMantissa.roundedMantissa roundHalfEven accuracyOfFraction at *
  rw [hacc, hm]
  by_cases h0 : num % den = 0
  · simp [h0, Accuracy.roundToNearestEven]
    omega
  · rw [if_neg h0]
    rcases Nat.lt_trichotomy (2 * (num % den)) den with hlt | heq | hgt
    · rw [Nat.compare_eq_lt.2 hlt]
      simp [Accuracy.roundToNearestEven]
      omega
    · -- a tie goes to the even neighbour
      rw [Nat.compare_eq_eq.2 heq]
      rcases Nat.mod_two_eq_zero_or_one (num / den) with hq | hq <;>
        simp [Accuracy.roundToNearestEven, heq, hq]
    · rw [Nat.compare_eq_gt.2 hgt]
      simp [Accuracy.roundToNearestEven, hgt]

end Mantissa

section Exponent

theorem log2_mul_two_pow {N : Nat} (hN : N ≠ 0) (j : Nat) : (N * 2 ^ j).log2 = N.log2 + j := by
  rw [Nat.log2_eq_iff (by positivity)]
  have hlo := Nat.log2_self_le hN
  have hhi : N < 2 ^ (N.log2 + 1) := Nat.lt_log2_self
  constructor
  · rw [Nat.pow_add]
    exact Nat.mul_le_mul_right _ hlo
  · rw [show N.log2 + j + 1 = N.log2 + 1 + j by omega, Nat.pow_add]
    exact Nat.mul_lt_mul_of_pos_right hhi (by positivity)

theorem targetExponent_eq (t : Int) : Format.binary64.targetExponent t = max (t - 53) (-1074) := rfl

-- The exponent the format gives a float `N * 2 ^ E` that is normal or has the least exponent is
-- `E`, however many zeros its mantissa is padded with.
theorem targetExponent_totalExponent {N : Nat} {E : Int} (hN : 0 < N) (hlt : N < 2 ^ 53)
    (hE : -1074 ≤ E) (hc : 2 ^ 52 ≤ N ∨ E = -1074) (j : Nat) :
    Format.binary64.targetExponent (totalExponent (N * 2 ^ j) (E - j)) = E := by
  have hlog : N.log2 < 53 := (Nat.log2_lt hN.ne').2 hlt
  rw [targetExponent_eq, totalExponent, log2_mul_two_pow hN.ne']
  rcases hc with hc | hc
  · have h52 : 52 ≤ N.log2 := (Nat.le_log2 hN.ne').2 hc
    omega
  · omega

end Exponent

theorem roundHalfEven_mul_self (a : Nat) {d : Nat} (hd : 0 < d) : roundHalfEven (a * d) d = a := by
  simp [roundHalfEven, Nat.mul_div_cancel a hd, Nat.mul_mod_left]
  omega

section Rounding

variable {N : Nat} {E : Int}

-- Rounding a mantissa that only pads a float `N * 2 ^ E` of the format with zeros gives that float
-- back: the zeros are shifted out and nothing is rounded.
theorem roundWithAccuracy_of_canonical (s : Sign) (hN : 0 < N) (hlt : N < 2 ^ 53)
    (hE : -1074 ≤ E) (hc : 2 ^ 52 ≤ N ∨ E = -1074) (j : Nat) :
    roundWithAccuracy .binary64 s (N * 2 ^ j) (E - j) .exact = .finite s N E hN := by
  have hpad := targetExponent_totalExponent hN hlt hE hc j
  have hbare := targetExponent_totalExponent hN hlt hE hc 0
  simp only [Nat.pow_zero, Nat.mul_one, Nat.cast_zero, Int.sub_zero] at hbare
  have hshift : (E - (E - j)).toNat = j := by omega
  have hexp : E - j + ((j : Nat) : Int) = E := by omega
  -- the padding is shifted out exactly, and then there is nothing left to round
  have hround : (ExtendedMantissa.ofMantissaAndAccuracy (N * 2 ^ j) .exact >>> j).roundedMantissa =
      N := by
    rw [((Mantissa.approximates_exact _).shiftRight one_pos j).roundedMantissa (by positivity),
      Nat.one_mul, roundHalfEven_mul_self _ (by positivity)]
  have hmant : (ExtendedMantissa.ofMantissaAndAccuracy N .exact >>> 0).mantissa = N := rfl
  unfold roundWithAccuracy shiftToTargetExponent shiftToExponent
  simp only [hpad, hshift, hexp, hround, hbare, Int.sub_self, Int.toNat_zero, hmant,
    Int.natCast_zero, Int.add_zero, dif_neg hN.ne']

end Rounding

section Division

variable {m₁ m₂ N : Nat} {e₁ e₂ E : Int}

-- The quotient of `m₁ * 2 ^ e₁` by `m₂ * 2 ^ e₂` is the float `N * 2 ^ E`.
def ExactQuotient (m₁ : Nat) (e₁ : Int) (m₂ : Nat) (e₂ : Int) (N : Nat) (E : Int) : Prop :=
  (m₁ : ℚ) * 2 ^ e₁ = N * 2 ^ E * (m₂ * 2 ^ e₂)

-- The exponent that division first aims at is not above that of an exact quotient below `2 ^ 53`
-- times its unit: the leading bits of the operands put the quotient below `2 ^ (D + 1)`, and it is
-- at least `2 ^ (D - 1)`, for `D` the difference of their total exponents.
theorem targetExponent_le_of_exactQuotient (h₁ : 0 < m₁) (h₂ : 0 < m₂) (hlt : N < 2 ^ 53)
    (hE : -1074 ≤ E) (hq : ExactQuotient m₁ e₁ m₂ e₂ N E) :
    Format.binary64.targetExponent (totalExponent m₁ e₁ - totalExponent m₂ e₂) ≤ E := by
  have hA : (2 : ℚ) ^ (m₁.log2 : ℤ) ≤ m₁ := by
    rw [zpow_natCast]
    exact_mod_cast Nat.log2_self_le h₁.ne'
  have hB : (m₂ : ℚ) < 2 ^ ((m₂.log2 : ℤ) + 1) := by
    rw [show (m₂.log2 : ℤ) + 1 = ((m₂.log2 + 1 : Nat) : ℤ) by push_cast; ring, zpow_natCast]
    exact_mod_cast Nat.lt_log2_self
  have hN : (N : ℚ) < 2 ^ (53 : ℤ) := by
    rw [show (53 : ℤ) = ((53 : Nat) : ℤ) from rfl, zpow_natCast]
    exact_mod_cast hlt
  have hpow : (2 : ℚ) ^ ((m₁.log2 : ℤ) + e₁) < 2 ^ (53 + ((m₂.log2 : ℤ) + 1) + (E + e₂)) :=
    calc (2 : ℚ) ^ ((m₁.log2 : ℤ) + e₁)
        = 2 ^ (m₁.log2 : ℤ) * 2 ^ e₁ := zpow_add₀ two_ne_zero _ _
      _ ≤ m₁ * 2 ^ e₁ := by gcongr
      _ = N * m₂ * 2 ^ (E + e₂) := by rw [hq, zpow_add₀ two_ne_zero]; ring
      _ < 2 ^ (53 : ℤ) * 2 ^ ((m₂.log2 : ℤ) + 1) * 2 ^ (E + e₂) := by gcongr
      _ = 2 ^ (53 + ((m₂.log2 : ℤ) + 1) + (E + e₂)) := by
        simp only [zpow_add₀ (two_ne_zero : (2 : ℚ) ≠ 0)]
  have hexp := (zpow_lt_zpow_iff_right₀ (by norm_num : (1 : ℚ) < 2)).1 hpow
  rw [targetExponent_eq, totalExponent, totalExponent]
  omega

-- Division of the mantissas of an exact quotient leaves no remainder: the quotient is the float
-- `N * 2 ^ E`, padded with as many zeros as the division's exponent lies below `E`.
theorem divCore_of_exactQuotient (h₁ : 0 < m₁) (h₂ : 0 < m₂) (hlt : N < 2 ^ 53)
    (hE : -1074 ≤ E) (hq : ExactQuotient m₁ e₁ m₂ e₂ N E) :
    ∃ j : Nat, divCore .binary64 m₁ e₁ m₂ e₂ = (N * 2 ^ j, E - j, .exact) := by
  have htarget := targetExponent_le_of_exactQuotient h₁ h₂ hlt hE hq
  generalize hT : min (e₁ - e₂)
    (Format.binary64.targetExponent (totalExponent m₁ e₁ - totalExponent m₂ e₂)) = T
  have hTq : T ≤ e₁ - e₂ := hT ▸ min_le_left _ _
  have hTE : T ≤ E := hT ▸ le_trans (min_le_right _ _) htarget
  have hsh : ((e₁ - e₂ - T).toNat : ℤ) = e₁ - e₂ - T := Int.toNat_of_nonneg (by omega)
  have hj : ((E - T).toNat : ℤ) = E - T := Int.toNat_of_nonneg (by omega)
  -- the shifted dividend is the divisor times the padded quotient
  have hM : m₁ * 2 ^ (e₁ - e₂ - T).toNat = N * 2 ^ (E - T).toNat * m₂ := by
    have hQ : (m₁ : ℚ) * 2 ^ (e₁ - e₂ - T) = N * 2 ^ (E - T) * m₂ :=
      calc (m₁ : ℚ) * 2 ^ (e₁ - e₂ - T) = m₁ * 2 ^ e₁ * 2 ^ (-e₂ - T) := by
            rw [mul_assoc, ← zpow_add₀ two_ne_zero]
            ring_nf
        _ = N * 2 ^ E * (m₂ * 2 ^ e₂) * 2 ^ (-e₂ - T) := by rw [hq]
        _ = N * 2 ^ (E - T) * m₂ := by
            rw [show E - T = E + e₂ + (-e₂ - T) by ring, zpow_add₀ two_ne_zero,
              zpow_add₀ two_ne_zero]
            ring
    rw [← hsh, ← hj, zpow_natCast, zpow_natCast] at hQ
    exact_mod_cast hQ
  refine ⟨(E - T).toNat, ?_⟩
  unfold divCore
  simp only [hT, Nat.shiftLeft_eq, hM, Nat.mul_div_cancel _ h₂, Nat.mul_mod_left,
    accuracyOfFraction, if_true]
  congr 2
  omega

-- Division returns the exact quotient whenever it is a float of the format.
theorem div_of_exactQuotient (s₁ s₂ : Sign) (h₁ : 0 < m₁) (h₂ : 0 < m₂) (hN : 0 < N)
    (hlt : N < 2 ^ 53) (hE : -1074 ≤ E) (hc : 2 ^ 52 ≤ N ∨ E = -1074)
    (hq : ExactQuotient m₁ e₁ m₂ e₂ N E) :
    UnpackedFloat.div .binary64 (.finite s₁ m₁ e₁ h₁) (.finite s₂ m₂ e₂ h₂) =
      .finite (s₁ / s₂) N E hN := by
  obtain ⟨j, hj⟩ := divCore_of_exactQuotient h₁ h₂ hlt hE hq
  simp only [UnpackedFloat.div, hj]
  exact roundWithAccuracy_of_canonical _ hN hlt hE hc j

end Division

section Integers

variable {a : Nat}

-- The mantissa and exponent of a whole number below `2 ^ 53`: shifted up to 53 bits, with the
-- exponent of the shift.
theorem normal_shift (ha : 0 < a) (hlt : a < 2 ^ 53) :
    2 ^ 52 ≤ a * 2 ^ (52 - a.log2) ∧ a * 2 ^ (52 - a.log2) < 2 ^ 53 := by
  have hlog : a.log2 < 53 := (Nat.log2_lt ha.ne').2 hlt
  constructor
  · calc 2 ^ 52 = 2 ^ a.log2 * 2 ^ (52 - a.log2) := by rw [← Nat.pow_add]; congr 1; omega
      _ ≤ a * 2 ^ (52 - a.log2) := Nat.mul_le_mul_right _ (Nat.log2_self_le ha.ne')
  · calc a * 2 ^ (52 - a.log2) < 2 ^ (a.log2 + 1) * 2 ^ (52 - a.log2) :=
          Nat.mul_lt_mul_of_pos_right Nat.lt_log2_self (by positivity)
      _ = 2 ^ 53 := by rw [← Nat.pow_add]; congr 1; omega

theorem roundRatio_of_lt (ha : 0 < a) (hlt : a < 2 ^ 53) :
    roundRatio a 1 = some (a * 2 ^ (52 - a.log2), (a.log2 : Int) - 52) := by
  have hlog : a.log2 < 53 := (Nat.log2_lt ha.ne').2 hlt
  obtain ⟨hlo, hhi⟩ := normal_shift ha hlt
  have hscaled : scaled a 1 ((a.log2 : Int) - 52) = (a * 2 ^ (52 - a.log2), 1) := by
    have hneg : (-((a.log2 : Int) - 52)).toNat = 52 - a.log2 := by omega
    have hpos : ((a.log2 : Int) - 52).toNat = 0 := by omega
    simp only [scaled, hneg, hpos, Nat.pow_eq, Nat.pow_zero, Nat.mul_one]
  have hlog1 : Nat.log2 1 = 0 := by decide
  have hscale : scaleExponent a 1 = (a.log2 : Int) - 52 := by
    simp only [scaleExponent, hlog1, Nat.cast_zero, Int.sub_zero, hscaled, Nat.mul_one,
      Nat.pow_eq]
    rw [if_neg (by omega)]
  have hmax : max ((a.log2 : Int) - 52) (-1074) = (a.log2 : Int) - 52 := max_eq_left (by omega)
  have hround : roundHalfEven (a * 2 ^ (52 - a.log2)) 1 = a * 2 ^ (52 - a.log2) := by
    simpa using roundHalfEven_mul_self (a * 2 ^ (52 - a.log2)) one_pos
  have hcarry : a * 2 ^ (52 - a.log2) ≠ 2 ^ 53 := by omega
  have hfinite : ¬ 971 < (a.log2 : Int) - 52 := by omega
  simp only [roundRatio, ha.ne', if_false, hscale, hmax, hscaled, hround, Nat.pow_eq, hcarry,
    hfinite]

theorem parts_ofInt?_of_lt {n : Int} {z : Float} (hn : n ≠ 0) (hlt : n.natAbs < 2 ^ 53)
    (h : ofInt? n = some z) :
    parts z = .finite (decide (n < 0)) (n.natAbs * 2 ^ (52 - n.natAbs.log2))
      ((n.natAbs.log2 : Int) - 52) := by
  have hpos : 0 < n.natAbs := Int.natAbs_pos.2 hn
  obtain ⟨hlo, hhi⟩ := normal_shift hpos hlt
  have hlog : n.natAbs.log2 < 53 := (Nat.log2_lt hpos.ne').2 hlt
  simp only [ofInt?, roundRatio_of_lt hpos hlt, Option.some.injEq] at h
  subst h
  exact parts_ofBits_bitsOf _ hhi (by omega) (by omega) (.inl hlo)

theorem exists_ofInt?_of_lt {n : Int} (hlt : n.natAbs < 2 ^ 53) : ∃ z, ofInt? n = some z := by
  rcases eq_or_ne n 0 with rfl | hn
  · exact ⟨_, rfl⟩
  · simp [ofInt?, roundRatio_of_lt (Int.natAbs_pos.2 hn) hlt]

-- The mantissa and exponent of a whole number below `2 ^ 53` spell the number.
theorem value_normal_shift (hlt : a < 2 ^ 53) :
    ((a * 2 ^ (52 - a.log2) : Nat) : ℚ) * 2 ^ ((a.log2 : Int) - 52) = a := by
  have hlog : a.log2 ≤ 52 := by
    rcases Nat.eq_zero_or_pos a with rfl | ha
    · simp
    · have := (Nat.log2_lt ha.ne').2 hlt
      omega
  rw [show ((a.log2 : Int) - 52) = -((52 - a.log2 : Nat) : Int) by omega, zpow_neg, zpow_natCast]
  push_cast
  field_simp

-- A whole number of at least `2 ^ 53` has a unit above one.
theorem one_le_scaleExponent (h : 2 ^ 53 ≤ a) : 1 ≤ scaleExponent a 1 := by
  by_contra hle
  obtain ⟨-, hhi⟩ := scaleExponent_bounds (by omega : a ≠ 0) one_ne_zero
  have hpow : (2 : ℚ) ^ scaleExponent a 1 ≤ 1 := zpow_le_one_of_nonpos₀ (by norm_num) (by omega)
  have ha : (2 : ℚ) ^ 53 ≤ a := by exact_mod_cast h
  have hdiv : (a : ℚ) ≤ a / 1 / 2 ^ scaleExponent a 1 := by
    rw [div_one]
    exact le_div_self (by positivity) (zpow_pos (by norm_num) _) hpow
  linarith

end Integers

section Pack

theorem unpack_of_parts {z : Float} {negative : Bool} {M : Nat} {E : Int}
    (h : parts z = .finite negative M E) (hM : 0 < M) :
    z.toModel.unpack = .finite (signOf negative) M E hM := by
  rw [unpack_eq_unpacked, h]
  simp [Parts.unpacked, hM.ne']

theorem ofModel_pack_unpack (z : Float) (hz : isNaN z = false) :
    Float.ofModel (Float.Model.pack z.toModel.unpack) = z := by
  have hbits :
      z.toBits.toNat / Nat.pow 2 52 % 2048 = 2047 → z.toBits.toNat % Nat.pow 2 52 = 0 := by
    intro h2047
    by_contra hfraction
    simp [isNaN, parts, h2047, hfraction] at hz
  obtain ⟨⟨bits, valid⟩⟩ := z
  simp only [Float.Model.pack, Float.Model.unpack]
  congr
  rw [pack_unpack bits.toBitVec hbits]

theorem div_eq_of_unpack {x y z : Float} (hz : isNaN z = false)
    (h : UnpackedFloat.div .binary64 x.toModel.unpack y.toModel.unpack = z.toModel.unpack) :
    x / y = z := by
  show Float.ofModel (Float.Model.pack (UnpackedFloat.div .binary64 x.toModel.unpack
    y.toModel.unpack)) = z
  rw [h]
  exact ofModel_pack_unpack z hz

theorem abs_eq_of_unpack {x z : Float} (hz : isNaN z = false)
    (h : x.toModel.unpack.abs = z.toModel.unpack) : x.abs = z := by
  show Float.ofModel (Float.Model.pack x.toModel.unpack.abs) = z
  rw [h]
  exact ofModel_pack_unpack z hz

theorem isNaN_eq_false_of_isFinite {z : Float} (h : isFinite z = true) : isNaN z = false := by
  unfold isFinite at h
  unfold isNaN
  split <;> simp_all

theorem lt_eq (x y : Float) : x.lt y = x.toModel.unpack.lt y.toModel.unpack := by
  show decide (x.toModel.unpack.lt y.toModel.unpack = true) = _
  cases x.toModel.unpack.lt y.toModel.unpack <;> rfl

end Pack

section WholeNumbers

theorem unpack_ofInt?_zero {z : Float} (h : ofInt? 0 = some z) :
    z.toModel.unpack = .zero .positive := by
  have hzero : roundRatio (Int.natAbs 0) 1 = some (0, -1074) := rfl
  simp only [ofInt?, hzero, Option.some.injEq] at h
  subst h
  rw [unpack_eq_unpacked, parts_ofBits_bitsOf _ (by norm_num) le_rfl (by norm_num) (.inr rfl)]
  rfl

-- Dividing the float of a multiple `c * r` below `2 ^ 53` by the float of `r` gives the float of
-- `c`: both operands and the quotient are held exactly, so division has nothing to round.
theorem div_ofInt? {c r : Int} {q y z : Float} (hr : 0 < r) (hm : (c * r).natAbs < 2 ^ 53)
    (hq : ofInt? (c * r) = some q) (hy : ofInt? r = some y) (hz : ofInt? c = some z) :
    q / y = z := by
  apply div_eq_of_unpack (isNaN_eq_false_of_isFinite (isFinite_of_ofInt? hz))
  rcases eq_or_ne c 0 with rfl | hc
  · -- zero divided by a float above zero is zero
    rw [Int.zero_mul] at hq
    rw [unpack_ofInt?_zero hq, unpack_ofInt?_zero hz]
    rcases positive_of_ofInt? hr hy with hinf | ⟨my, ey, hmy, hfin⟩
    · rw [hinf]
      rfl
    · rw [hfin]
      rfl
  · have hmag : (c * r).natAbs = c.natAbs * r.natAbs := Int.natAbs_mul c r
    have hcpos : 0 < c.natAbs := Int.natAbs_pos.2 hc
    have hrpos : 0 < r.natAbs := Int.natAbs_pos.2 hr.ne'
    have hc' : c.natAbs < 2 ^ 53 := by
      have := Nat.le_mul_of_pos_right c.natAbs hrpos
      omega
    have hr' : r.natAbs < 2 ^ 53 := by
      have := Nat.le_mul_of_pos_left r.natAbs hcpos
      omega
    have hcr : c * r ≠ 0 := mul_ne_zero hc hr.ne'
    obtain ⟨hNlo, hNhi⟩ := normal_shift hcpos hc'
    have hlog : c.natAbs.log2 < 53 := (Nat.log2_lt hcpos.ne').2 hc'
    have hE : (-1074 : Int) ≤ (c.natAbs.log2 : Int) - 52 := by omega
    rw [unpack_of_parts (parts_ofInt?_of_lt hcr hm hq) (by positivity),
      unpack_of_parts (parts_ofInt?_of_lt hr.ne' hr' hy) (by positivity),
      unpack_of_parts (parts_ofInt?_of_lt hc hc' hz) (by positivity),
      div_of_exactQuotient _ _ _ _ (by positivity) hNhi hE (.inl hNlo)]
    · -- the quotient has the sign of `c`, as `r` is above zero
      have hsign : decide (c * r < 0) = decide (c < 0) :=
        decide_eq_decide.2 ⟨fun h => by nlinarith, fun h => Int.mul_neg_of_neg_of_pos h hr⟩
      have hrsign : decide (r < 0) = false := decide_eq_false (by omega)
      rw [hsign, hrsign]
      cases decide (c < 0) <;> rfl
    · unfold ExactQuotient
      rw [value_normal_shift hm, value_normal_shift hc', value_normal_shift hr', hmag]
      push_cast
      ring

theorem parts_ofInt?_of_le {n : Int} {z : Float} (hbig : 2 ^ 53 ≤ n.natAbs)
    (h : ofInt? n = some z) :
    ∃ s e, parts z = .finite (decide (n < 0)) s e ∧ 2 ^ 52 ≤ s ∧ 1 ≤ e := by
  cases hr : roundRatio n.natAbs 1 with
  | none => simp [ofInt?, hr] at h
  | some se =>
    obtain ⟨s, e⟩ := se
    obtain ⟨hs, hlo, hhi, hcanon, hscale⟩ := roundRatio_bounds one_ne_zero hr
    have he : 1 ≤ e := le_trans (one_le_scaleExponent hbig) (hscale (by omega))
    simp only [ofInt?, hr, Option.some.injEq] at h
    subst h
    exact ⟨s, e, parts_ofBits_bitsOf _ hs hlo hhi hcanon, hcanon.resolve_right (by omega), he⟩

-- The absolute value of the float of an integer is the float of its magnitude.
theorem abs_ofInt? {n : Int} {z : Float} (h : ofInt? n = some z) :
    ofInt? (n.natAbs : Int) = some z.abs := by
  cases hr : roundRatio n.natAbs 1 with
  | none => simp [ofInt?, hr] at h
  | some se =>
    obtain ⟨s, e⟩ := se
    obtain ⟨hs, hlo, hhi, hcanon, -⟩ := roundRatio_bounds one_ne_zero hr
    simp only [ofInt?, hr, Option.some.injEq] at h
    subst h
    simp only [ofInt?, Int.natAbs_natCast, hr, Option.some.injEq]
    symm
    have hparts := parts_ofBits_bitsOf (decide ((n.natAbs : Int) < 0)) hs hlo hhi hcanon
    apply abs_eq_of_unpack (by rw [isNaN, hparts])
    rw [unpack_eq_unpacked, unpack_eq_unpacked, hparts, parts_ofBits_bitsOf _ hs hlo hhi hcanon]
    by_cases hs0 : s = 0 <;> cases decide (n < 0) <;>
      simp [Parts.unpacked, hs0, signOf, UnpackedFloat.abs]

-- A multiple of the grid whose float is below `2 ^ 53` in magnitude is itself below `2 ^ 53`: a
-- larger one rounds to a float of exponent one or more.
theorem natAbs_lt_of_abs_lt {m : Int} {q : Float} (h : ofInt? m = some q)
    (hsmall : q.abs < 9007199254740992) : m.natAbs < 2 ^ 53 := by
  by_contra hbig
  rw [not_lt] at hbig
  obtain ⟨s, e, hparts, hs, he⟩ :=
    parts_ofInt?_of_le (n := (m.natAbs : Int)) (by rw [Int.natAbs_natCast]; exact hbig)
      (abs_ofInt? h)
  rw [decide_eq_false (by omega : ¬ (m.natAbs : Int) < 0)] at hparts
  have hlit :
      (9007199254740992 : Float).toModel.unpack = .finite .positive (2 ^ 52) 1 (by decide) := rfl
  have hlt : (Float.abs q).lt 9007199254740992 = true := hsmall
  rw [lt_eq, unpack_of_parts hparts (by omega), hlit] at hlt
  simp [UnpackedFloat.lt, UnpackedFloat.compare, signOf] at hlt
  -- the exponent is above that of `2 ^ 53`, or equal to it with a mantissa at least as large
  rcases lt_or_eq_of_le he with he1 | rfl
  · rw [compare_gt_iff_gt.2 he1] at hlt
    simp [Ordering.then] at hlt
  · rw [compare_eq_iff_eq.2 rfl] at hlt
    have hslt : s < 4503599627370496 := compare_lt_iff_lt.1 hlt
    omega

end WholeNumbers

end SeriesDecoding.Binary64
