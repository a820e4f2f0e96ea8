import Mathlib
import SeriesDecoding.Proofs.FloatModel

namespace SeriesDecoding.Binary64

-- The ratio that the scaled numerator and denominator spell.
theorem ratio_scaled (num den : Nat) (e : Int) :
    ((scaled num den e).1 : ℚ) / (scaled num den e).2 = num / den / 2 ^ e := by
  unfold scaled
  cases e with
  | ofNat k =>
    have hneg : (-(k : Int)).toNat = 0 := by omega
    simp only [Int.ofNat_eq_natCast, hneg, Int.toNat_natCast, Nat.pow_eq, pow_zero, mul_one,
      Nat.cast_mul, Nat.cast_pow, Nat.cast_ofNat, zpow_natCast, div_div]
  | negSucc k =>
    have hneg : (-(Int.negSucc k)).toNat = k + 1 := by omega
    have hpos : (Int.negSucc k).toNat = 0 := rfl
    simp only [hneg, hpos, Nat.pow_eq, pow_zero, mul_one, Nat.cast_mul, Nat.cast_pow,
      Nat.cast_ofNat, zpow_negSucc, div_inv_eq_mul]
    ring

-- Lowering the exponent by one doubles the ratio.
theorem ratio_sub_one (num den : Nat) (e : Int) :
    (num : ℚ) / den / 2 ^ (e - 1) = 2 * ((num : ℚ) / den / 2 ^ e) := by
  rw [zpow_sub_one₀ two_ne_zero]
  ring

section Scale

variable {num den : Nat}

-- With a and b the binary logarithms of num and den, the exponent a - b - 52 puts the ratio
-- strictly between 2 ^ 51 and 2 ^ 53.
theorem ratio_first_estimate (hnum : num ≠ 0) (hden : den ≠ 0) :
    (2 : ℚ) ^ 51 < num / den / 2 ^ ((Nat.log2 num : Int) - Nat.log2 den - 52) ∧
      (num : ℚ) / den / 2 ^ ((Nat.log2 num : Int) - Nat.log2 den - 52) < 2 ^ 53 := by
  -- the logarithms bound num and den within a factor of two
  have hA : (2 : ℚ) ^ Nat.log2 num ≤ num := by exact_mod_cast Nat.log2_self_le hnum
  have hA' : (num : ℚ) < 2 * 2 ^ Nat.log2 num := by
    have := @Nat.lt_log2_self num
    rw [pow_succ] at this
    exact_mod_cast (by omega : num < 2 * 2 ^ Nat.log2 num)
  have hB : (2 : ℚ) ^ Nat.log2 den ≤ den := by exact_mod_cast Nat.log2_self_le hden
  have hB' : (den : ℚ) < 2 * 2 ^ Nat.log2 den := by
    have := @Nat.lt_log2_self den
    rw [pow_succ] at this
    exact_mod_cast (by omega : den < 2 * 2 ^ Nat.log2 den)
  have hpow : (2 : ℚ) ^ ((Nat.log2 num : Int) - Nat.log2 den - 52) =
      2 ^ Nat.log2 num / 2 ^ Nat.log2 den / 2 ^ 52 := by
    rw [zpow_sub₀ two_ne_zero, zpow_sub₀ two_ne_zero]
    simp
  have hden0 : (0 : ℚ) < den := by exact_mod_cast Nat.pos_of_ne_zero hden
  have hApos : (0 : ℚ) < 2 ^ Nat.log2 num := by positivity
  have hBpos : (0 : ℚ) < 2 ^ Nat.log2 den := by positivity
  have hratio : (num : ℚ) / den / (2 ^ Nat.log2 num / 2 ^ Nat.log2 den / 2 ^ 52) =
      num * 2 ^ Nat.log2 den * 2 ^ 52 / (den * 2 ^ Nat.log2 num) := by
    field_simp
  rw [hpow, hratio]
  constructor
  · rw [lt_div_iff₀ (by positivity)]
    nlinarith [mul_lt_mul_of_pos_right hB' hApos, mul_le_mul_of_nonneg_left hA hBpos.le]
  · rw [div_lt_iff₀ (by positivity)]
    nlinarith [mul_lt_mul_of_pos_right hA' hBpos, mul_le_mul_of_nonneg_left hB hApos.le]

theorem scaled_snd_pos (hden : den ≠ 0) (e : Int) : 0 < (scaled num den e).2 :=
  Nat.mul_pos (Nat.pos_of_ne_zero hden) (Nat.two_pow_pos _)

-- The scaling exponent puts the ratio at least 2 ^ 52 and below 2 ^ 53. The first estimate from
-- the binary logarithms is right, or one too large when the ratio there is below 2 ^ 52.
theorem scaleExponent_bounds (hnum : num ≠ 0) (hden : den ≠ 0) :
    (2 : ℚ) ^ 52 ≤ num / den / 2 ^ scaleExponent num den ∧
      (num : ℚ) / den / 2 ^ scaleExponent num den < 2 ^ 53 := by
  obtain ⟨hlo, hhi⟩ := ratio_first_estimate hnum hden
  have hd := @scaled_snd_pos num den hden ((Nat.log2 num : Int) - Nat.log2 den - 52)
  have hratio := ratio_scaled num den ((Nat.log2 num : Int) - Nat.log2 den - 52)
  unfold scaleExponent
  dsimp only
  rcases hs : scaled num den ((Nat.log2 num : Int) - Nat.log2 den - 52) with ⟨n, d⟩
  rw [hs] at hd hratio
  dsimp only at hd hratio ⊢
  have hdq : (0 : ℚ) < d := by exact_mod_cast hd
  split_ifs with htest
  · have hR : (num : ℚ) / den / 2 ^ ((Nat.log2 num : Int) - Nat.log2 den - 52) < 2 ^ 52 := by
      rw [← hratio, div_lt_iff₀ hdq]
      exact_mod_cast htest
    rw [ratio_sub_one]
    constructor <;> linarith
  · have hR : (2 : ℚ) ^ 52 ≤ num / den / 2 ^ ((Nat.log2 num : Int) - Nat.log2 den - 52) := by
      rw [← hratio, le_div_iff₀ hdq]
      exact_mod_cast not_lt.1 htest
    exact ⟨hR, hhi⟩

-- The estimate is lowered at most once.
theorem scaleExponent_ge (num den : Nat) :
    (Nat.log2 num : Int) - Nat.log2 den - 53 ≤ scaleExponent num den := by
  unfold scaleExponent
  dsimp only
  split_ifs <;> omega

end Scale

theorem div_le_roundHalfEven (n d : Nat) : n / d ≤ roundHalfEven n d := by
  unfold roundHalfEven
  dsimp only
  split <;> omega

theorem roundHalfEven_le (n d : Nat) : roundHalfEven n d ≤ n / d + 1 := by
  unfold roundHalfEven
  dsimp only
  split <;> omega

-- The ratio shrinks as the exponent grows.
theorem ratio_antitone (num den : Nat) {e e' : Int} (h : e ≤ e') :
    (num : ℚ) / den / 2 ^ e' ≤ num / den / 2 ^ e :=
  div_le_div_of_nonneg_left (by positivity) (by positivity) (zpow_le_zpow_right₀ one_le_two h)

-- A magnitude that rounding returns has a significand below 2 ^ 53 and an exponent from -1074 to
-- 971, is normal (at least 2 ^ 52) unless the exponent is the least one, and, for a nonzero ratio,
-- has an exponent not below that of its scaling.
theorem roundRatio_bounds {num den q : Nat} {e : Int} (hden : den ≠ 0)
    (h : roundRatio num den = some (q, e)) :
    q < 2 ^ 53 ∧ -1074 ≤ e ∧ e ≤ 971 ∧ (2 ^ 52 ≤ q ∨ e = -1074) ∧
      (num ≠ 0 → scaleExponent num den ≤ e) := by
  unfold roundRatio at h
  split_ifs at h with hnum
  · simp only [Option.some.injEq, Prod.mk.injEq] at h
    obtain ⟨rfl, rfl⟩ := h
    simp [hnum]
  · dsimp only at h
    obtain ⟨hlo, hhi⟩ := scaleExponent_bounds hnum hden
    have hratio := ratio_scaled num den (max (scaleExponent num den) (-1074))
    have hd := @scaled_snd_pos num den hden (max (scaleExponent num den) (-1074))
    generalize scaled num den (max (scaleExponent num den) (-1074)) = nd at h hratio hd
    obtain ⟨n, d⟩ := nd
    dsimp only at h hratio hd
    have hdq : (0 : ℚ) < d := by exact_mod_cast hd
    -- below 2 ^ 53 at the clamped exponent, which is not below the scaled one
    have hlt : n / d < 2 ^ 53 := by
      have hq : (n : ℚ) / d < 2 ^ 53 :=
        hratio ▸ lt_of_le_of_lt (ratio_antitone num den (le_max_left _ _)) hhi
      rw [div_lt_iff₀ hdq] at hq
      exact (Nat.div_lt_iff_lt_mul hd).2 (by exact_mod_cast hq)
    -- at least 2 ^ 52 when the clamp leaves the scaled exponent
    have hge : max (scaleExponent num den) (-1074) = scaleExponent num den → 2 ^ 52 ≤ n / d := by
      intro hmax
      have hq : (2 : ℚ) ^ 52 ≤ n / d := by
        rw [hratio, hmax]
        exact hlo
      rw [le_div_iff₀ hdq] at hq
      exact (Nat.le_div_iff_mul_le hd).2 (by exact_mod_cast hq)
    have hround := roundHalfEven_le n d
    have hround' := div_le_roundHalfEven n d
    split_ifs at h with hcarry hover
    · -- rounding carried into the next power of two
      simp only [Option.some.injEq, Prod.mk.injEq] at h hover
      obtain ⟨rfl, rfl⟩ := h
      refine ⟨by simp, by omega, by omega, .inl (by simp), fun _ => by omega⟩
    · simp only [Option.some.injEq, Prod.mk.injEq] at h
      obtain ⟨rfl, rfl⟩ := h
      have hq : roundHalfEven n d < 2 ^ 53 := by
        simp only [Nat.pow_eq] at hcarry
        omega
      refine ⟨hq, by omega, by omega, ?_, fun _ => le_max_left _ _⟩
      rcases max_cases (scaleExponent num den) (-1074) with ⟨hmax, _⟩ | ⟨hmax, _⟩
      · exact .inl (le_trans (hge hmax) hround')
      · exact .inr hmax

section Word

-- A word put together from a sign bit, an 11-bit biased exponent and a 52-bit fraction gives each
-- field back.
theorem word_fields {s b f : Nat} (hs : s ≤ 1) (hb : b < 2048) (hf : f < 2 ^ 52) :
    s * 2 ^ 63 + b * 2 ^ 52 + f < 2 ^ 64 ∧ (s * 2 ^ 63 + b * 2 ^ 52 + f) / 2 ^ 63 = s ∧
      (s * 2 ^ 63 + b * 2 ^ 52 + f) / 2 ^ 52 % 2048 = b ∧
      (s * 2 ^ 63 + b * 2 ^ 52 + f) % 2 ^ 52 = f := by
  omega

variable (negative : Bool) {q : Nat} {e : Int}

-- The word of a magnitude with a significand below 2 ^ 53 and an exponent from -1074 to 971:
-- the sign bit, the biased exponent (zero for a subnormal significand) and the fraction.
theorem bitsOf_fields (hq : q < 2 ^ 53) (hlo : -1074 ≤ e) (hhi : e ≤ 971) :
    bitsOf negative (some (q, e)) < 2 ^ 64 ∧
      bitsOf negative (some (q, e)) / 2 ^ 63 = (if negative then 1 else 0) ∧
      bitsOf negative (some (q, e)) / 2 ^ 52 % 2048 =
        (if q < 2 ^ 52 then 0 else (e + 1075).toNat) ∧
      bitsOf negative (some (q, e)) % 2 ^ 52 = (if q < 2 ^ 52 then q else q - 2 ^ 52) := by
  have hsign : (if negative then Nat.pow 2 63 else 0) = (if negative then 1 else 0) * 2 ^ 63 := by
    cases negative <;> rfl
  have hs : (if negative then 1 else 0) ≤ 1 := by split <;> omega
  by_cases hsub : q < 2 ^ 52
  case pos =>
    -- a subnormal significand: no exponent bits, and the significand is the fraction
    have hword : bitsOf negative (some (q, e)) =
        (if negative then 1 else 0) * 2 ^ 63 + 0 * 2 ^ 52 + q := by
      simp only [bitsOf, Nat.pow_eq, hsub, if_true, hsign]
      omega
    simpa only [hword, hsub, if_true] using word_fields hs (by decide) hsub
  case neg =>
    -- a normal significand: the biased exponent `e + 1075` is from 1 to 2046, and the fraction is
    -- the significand without its leading bit
    have hbiased : (e + 1075).toNat < 2048 := by omega
    have hfraction : q - 2 ^ 52 < 2 ^ 52 := by omega
    have hword : bitsOf negative (some (q, e)) =
        (if negative then 1 else 0) * 2 ^ 63 + (e + 1075).toNat * 2 ^ 52 + (q - 2 ^ 52) := by
      simp only [bitsOf, Nat.pow_eq, hsub, if_false, hsign]
    simpa only [hword, hsub, if_false] using word_fields hs hbiased hfraction

-- Such a word spells its magnitude with its sign, when the significand is normal or the exponent
-- the least one.
theorem parts_ofBits_bitsOf (hq : q < 2 ^ 53) (hlo : -1074 ≤ e) (hhi : e ≤ 971)
    (hcanon : 2 ^ 52 ≤ q ∨ e = -1074) :
    parts (Float.ofBits (bitsOf negative (some (q, e))).toUInt64) = .finite negative q e := by
  obtain ⟨hlt, hsign, hbiased, hfraction⟩ := bitsOf_fields negative hq hlo hhi
  have hword : (bitsOf negative (some (q, e))).toUInt64.toNat = bitsOf negative (some (q, e)) :=
    Nat.mod_eq_of_lt hlt
  have hfinite : bitsOf negative (some (q, e)) / Nat.pow 2 52 % 2048 ≠ 2047 := by
    simp only [Nat.pow_eq, hbiased]
    split_ifs <;> omega
  unfold parts
  rw [toBits_ofBits _ (by rw [hword]; exact fun h => absurd h hfinite), hword]
  simp only [Nat.pow_eq, hsign, hbiased, hfraction]
  by_cases hsub : q < 2 ^ 52
  · -- a subnormal significand, whose exponent is the least one
    have he : e = -1074 := hcanon.resolve_left (by omega)
    have hsub' : q < 4503599627370496 := hsub
    cases negative <;> simp [hsub', he]
  · -- a normal significand, whose biased exponent is neither zero nor all ones
    have hE : (e + 1075).toNat ≠ 2047 := by omega
    have hE0 : (e + 1075).toNat ≠ 0 := by omega
    simp only [hsub, if_false, hE, hE0]
    cases negative <;> simp <;> omega

end Word

section Integers

variable {n : Int} {y : Float}

-- The float of an integer within the finite range spells the integer's rounded magnitude with its
-- sign; a nonzero integer is at least one, so its significand is normal.
theorem parts_ofInt? (h : ofInt? n = some y) :
    ∃ q e, parts y = .finite (decide (n < 0)) q e ∧ (n ≠ 0 → 2 ^ 52 ≤ q) := by
  unfold ofInt? at h
  cases hr : roundRatio n.natAbs 1 with
  | none => simp [hr] at h
  | some m =>
    obtain ⟨q, e⟩ := m
    simp only [hr, Option.some.injEq] at h
    subst h
    obtain ⟨hq, hlo, hhi, hcanon, hscale⟩ := roundRatio_bounds one_ne_zero hr
    refine ⟨q, e, parts_ofBits_bitsOf _ hq hlo hhi hcanon, fun hn => ?_⟩
    -- the exponent of a whole number is far above the least one
    have hse := scaleExponent_ge n.natAbs 1
    have he := hscale (Int.natAbs_ne_zero.2 hn)
    have hlog : Nat.log2 1 = 0 := by decide
    exact hcanon.resolve_right (by omega)

theorem isFinite_of_ofInt? (h : ofInt? n = some y) : isFinite y = true := by
  obtain ⟨q, e, hparts, -⟩ := parts_ofInt? h
  simp [isFinite, hparts]

theorem positive_of_ofInt? (hn : 0 < n) (h : ofInt? n = some y) : Positive y.toModel.unpack := by
  obtain ⟨q, e, hparts, hnormal⟩ := parts_ofInt? h
  have hq : q ≠ 0 := by
    have := hnormal (by omega)
    omega
  have hsign : decide (n < 0) = false := decide_eq_false (by omega)
  rw [unpack_eq_unpacked, hparts, hsign]
  exact .inr ⟨q, e, Nat.pos_of_ne_zero hq, by simp [Parts.unpacked, hq, signOf]⟩

end Integers

end SeriesDecoding.Binary64
