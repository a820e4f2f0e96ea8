import Mathlib
import SeriesDecoding.Binary64.Round

namespace SeriesDecoding.Binary64

open Float.Model UnpackedFloat

-- The sign that a sign bit spells.
def signOf (negative : Bool) : Sign := if negative then .negative else .positive

-- What the parts of a float spell, in the unpacked form of the float model: a zero significand
-- is the zero of its sign.
def Parts.unpacked : Parts → UnpackedFloat
  | .finite negative m e =>
    if h : m = 0 then .zero (signOf negative)
    else .finite (signOf negative) m e (Nat.pos_of_ne_zero h)
  | .infinite negative => .infinity (signOf negative)
  | .notANumber => .notANumber

section Fields

variable (b : BitVec 64)

theorem toNat_unpackExponent :
    (@unpackExponent .binary64 b).toNat = b.toNat / Nat.pow 2 52 % 2048 := by
  simp [unpackExponent, Nat.shiftRight_eq_div_pow]

theorem toNat_unpackMantissa :
    (@unpackMantissa .binary64 b).toNat = b.toNat % Nat.pow 2 52 := by
  simp [unpackMantissa]

theorem ofBitVec_unpackSign :
    Sign.ofBitVec (@unpackSign .binary64 b) = signOf (b.toNat / Nat.pow 2 63 == 1) := by
  have hlt := b.isLt
  have hsign : (@unpackSign .binary64 b).toNat = b.toNat / 2 ^ 63 := by
    simp only [unpackSign, BitVec.toNat_cast, BitVec.extractLsb_toNat, Nat.shiftRight_eq_div_pow]
    omega
  have hpow : Nat.pow 2 63 = 2 ^ 63 := rfl
  rw [hpow]
  unfold Sign.ofBitVec signOf
  by_cases h : b.toNat / 2 ^ 63 = 0
  · have hzero : @unpackSign .binary64 b = 0#1 := BitVec.eq_of_toNat_eq (by rw [hsign, h]; rfl)
    have hne : (b.toNat / 2 ^ 63 == 1) = false := by
      rw [h]
      rfl
    rw [if_pos hzero, hne]
    rfl
  · -- the sign field is one bit, so it is one when it is not zero
    have hone : @unpackSign .binary64 b ≠ 0#1 := fun hzero => h (by rw [← hsign, hzero]; rfl)
    have h1 : (b.toNat / 2 ^ 63 == 1) = true := by
      rw [show b.toNat / 2 ^ 63 = 1 by omega]
      rfl
    rw [if_neg hone, h1]
    rfl

theorem toNat_one_append (m : BitVec 52) : (1#1 ++ m).toNat = m.toNat + Nat.pow 2 52 := by
  rw [BitVec.toNat_append, ← Nat.shiftLeft_add_eq_or_of_lt m.isLt]
  simp [Nat.shiftLeft_eq]
  omega

theorem toBitVec_ofBitVec (s : BitVec 1) : (Sign.ofBitVec s).toBitVec = s := by
  revert s
  decide

-- A word is its sign, exponent and mantissa fields put back together.
theorem packComponents_unpack :
    packComponents .binary64 (Sign.ofBitVec (@unpackSign .binary64 b))
      (@unpackExponent .binary64 b) (@unpackMantissa .binary64 b) = b := by
  simp only [packComponents, toBitVec_ofBitVec, unpackSign, unpackExponent, unpackMantissa,
    BitVec.extractLsb]
  ext i hi
  grind

end Fields

-- The float model and `parts` read the same three fields of a float's bits.
theorem unpack_eq_unpacked (x : Float) : x.toModel.unpack = (parts x).unpacked := by
  have hE := toNat_unpackExponent x.toModel.toBits.toBitVec
  have hM := toNat_unpackMantissa x.toModel.toBits.toBitVec
  have hS := ofBitVec_unpackSign x.toModel.toBits.toBitVec
  have hbits : x.toBits.toNat = x.toModel.toBits.toBitVec.toNat := rfl
  have hones : (-1#11).toNat = 2047 := rfl
  unfold Float.Model.unpack UnpackedFloat.unpack parts
  simp only [hbits, hS, ← BitVec.toNat_inj, hE, hM, toNat_one_append, hones, BitVec.toNat_zero,
    Nat.pow_eq, UInt64.toNat_toBitVec]
  split_ifs <;> simp_all [Parts.unpacked, Format.exponentBias]

-- Bits that spell no NaN are packed again unchanged from their unpacking.
theorem pack_unpack (b : BitVec 64)
    (h : b.toNat / Nat.pow 2 52 % 2048 = 2047 → b.toNat % Nat.pow 2 52 = 0) :
    UnpackedFloat.pack .binary64 (UnpackedFloat.unpack .binary64 b) = b := by
  have hE := toNat_unpackExponent b
  have hM := toNat_unpackMantissa b
  have hElt : (@unpackExponent .binary64 b).toNat < 2048 := (@unpackExponent .binary64 b).isLt
  have hMlt : (@unpackMantissa .binary64 b).toNat < 2 ^ 52 := (@unpackMantissa .binary64 b).isLt
  -- each branch of the unpacking packs its fields back into place
  have hback : ∀ E M, @unpackExponent .binary64 b = E → @unpackMantissa .binary64 b = M →
      packComponents .binary64 (Sign.ofBitVec (@unpackSign .binary64 b)) E M = b := by
    rintro _ _ rfl rfl
    exact packComponents_unpack b
  have hbias : (Format.binary64.exponentBias : Int) = 1023 := rfl
  rw [UnpackedFloat.unpack]
  split
  · rename_i hexp
    have hmant : @unpackMantissa .binary64 b = 0#52 := by
      apply BitVec.eq_of_toNat_eq
      have := congrArg BitVec.toNat hexp
      simp only [hE, hM] at this ⊢
      exact h this
    rw [if_pos hmant]
    exact hback _ _ hexp hmant
  · rename_i hexpne
    have hEne : (@unpackExponent .binary64 b).toNat ≠ 2047 := fun h2047 =>
      hexpne (BitVec.eq_of_toNat_eq h2047)
    split
    · rename_i hexp0
      split
      · rename_i hmant
        exact hback _ _ hexp0 hmant
      · rename_i hmant
        -- a subnormal: the biased exponent is one and the mantissa has under 52 bits
        have hE0 : (@unpackExponent .binary64 b).toNat = 0 := by rw [hexp0]; rfl
        have hMpos : (@unpackMantissa .binary64 b).toNat ≠ 0 := fun h0 =>
          hmant (BitVec.eq_of_toNat_eq h0)
        have hlog := (Nat.log2_lt hMpos).2 hMlt
        simp only [UnpackedFloat.pack, hE0, hbias]
        split_ifs with hover hnormal
        · simp at hover
        · simp [Format.mantissaBits] at hnormal
          omega
        · exact hback _ _ hexp0 (by rw [BitVec.ofNat_toNat, BitVec.setWidth_eq])
    · rename_i hexpnz
      -- a normal number: the biased exponent is the stored one and the mantissa has 53 bits
      have hEnz : (@unpackExponent .binary64 b).toNat ≠ 0 := fun h0 =>
        hexpnz (BitVec.eq_of_toNat_eq h0)
      have happ := toNat_one_append (@unpackMantissa .binary64 b)
      have hlo : 52 ≤ (1#1 ++ @unpackMantissa .binary64 b).toNat.log2 :=
        (Nat.le_log2 (by rw [happ]; simp)).2 (by rw [happ]; simp)
      have hhi : (1#1 ++ @unpackMantissa .binary64 b).toNat.log2 < 53 :=
        (Nat.log2_lt (by rw [happ]; simp)).2 (by rw [happ]; simp; omega)
      simp only [UnpackedFloat.pack, hbias]
      split_ifs with hover hnormal
      · simp at hover
        omega
      · refine hback _ _ ?_ ?_
        · apply BitVec.eq_of_toNat_eq
          simp
          omega
        · apply BitVec.eq_of_toNat_eq
          simp [happ]
          omega
      · simp [Format.mantissaBits] at hnormal
        omega

-- A word that spells no NaN is the float's bits unchanged.
theorem toBits_ofBits (u : UInt64)
    (h : u.toNat / Nat.pow 2 52 % 2048 = 2047 → u.toNat % Nat.pow 2 52 = 0) :
    (Float.ofBits u).toBits = u := by
  show UInt64.ofBitVec
    (UnpackedFloat.pack .binary64 (UnpackedFloat.unpack .binary64 u.toBitVec)) = u
  rw [pack_unpack u.toBitVec h]

-- Packing makes a NaN of nothing but a NaN.
theorem unpack_packComponents_ne (s : Sign) (E : BitVec 11) (M : BitVec 52)
    (h : E ≠ -1#11 ∨ M = 0#52) :
    UnpackedFloat.unpack .binary64 (packComponents .binary64 s E M) ≠ .notANumber := by
  unfold UnpackedFloat.unpack
  simp only [unpackExponent_packComponents, unpackMantissa_packComponents]
  split_ifs <;> simp_all

theorem unpack_pack_ne (u : UnpackedFloat) (hu : u ≠ .notANumber) :
    UnpackedFloat.unpack .binary64 (UnpackedFloat.pack .binary64 u) ≠ .notANumber := by
  cases u with
  | notANumber => exact absurd rfl hu
  | infinity s => exact unpack_packComponents_ne s _ _ (.inr rfl)
  | zero s => exact unpack_packComponents_ne s _ _ (.inr rfl)
  | finite s m e hm =>
    simp only [UnpackedFloat.pack]
    split_ifs with hover
    · exact unpack_packComponents_ne s _ _ (.inr rfl)
    · apply unpack_packComponents_ne
      left
      intro hones
      have := congrArg BitVec.toNat hones
      simp at this hover
      omega
    · exact unpack_packComponents_ne s _ _ (.inl (by decide))

theorem unpack_zero : (0 : Float).toModel.unpack = .zero .positive := by
  rfl

theorem le_eq (x y : Float) : x.le y = x.toModel.unpack.le y.toModel.unpack := by
  show decide (x.toModel.unpack.le y.toModel.unpack = true) = _
  cases x.toModel.unpack.le y.toModel.unpack <;> rfl

theorem beq_eq (x y : Float) :
    (x == y) = (x.toModel.unpack.compare y.toModel.unpack == some .eq) := by
  rfl

-- Finiteness and NaN read off the parts agree with the float model's.
theorem isFinite_eq (x : Float) : isFinite x = x.toModel.unpack.isFinite := by
  rw [unpack_eq_unpacked]
  unfold isFinite
  cases parts x with
  | finite negative m e => by_cases hm : m = 0 <;> simp [Parts.unpacked, hm, UnpackedFloat.isFinite]
  | infinite negative => rfl
  | notANumber => rfl

theorem isNaN_eq (x : Float) : isNaN x = x.toModel.unpack.isNaN := by
  rw [unpack_eq_unpacked]
  unfold isNaN
  cases parts x with
  | finite negative m e => by_cases hm : m = 0 <;> simp [Parts.unpacked, hm, UnpackedFloat.isNaN]
  | infinite negative => rfl
  | notANumber => rfl

-- A float above zero or a positive infinity, as the float model unpacks it.
def Positive (u : UnpackedFloat) : Prop :=
  u = .infinity .positive ∨ ∃ m e hm, u = .finite .positive m e hm

-- What is not at most zero is above zero or a NaN.
theorem positive_of_le_zero {x : Float} (hle : x.le 0 = false) (hnan : isNaN x = false) :
    Positive x.toModel.unpack := by
  rw [isNaN_eq] at hnan
  rw [le_eq, unpack_zero] at hle
  unfold Positive
  cases hu : x.toModel.unpack with
  | notANumber => simp [hu, UnpackedFloat.isNaN] at hnan
  | infinity s => cases s <;> simp_all [UnpackedFloat.le, UnpackedFloat.compare]
  | zero s => cases s <;> simp_all [UnpackedFloat.le, UnpackedFloat.compare]
  | finite s m e hm => cases s <;> simp_all [UnpackedFloat.le, UnpackedFloat.compare]

theorem beq_zero_of_positive {x : Float} (hx : Positive x.toModel.unpack) : (x == 0) = false := by
  rw [beq_eq, unpack_zero]
  rcases hx with hinf | ⟨m, e, hm, hfin⟩
  · rw [hinf]
    rfl
  · rw [hfin]
    rfl

-- Rounding a finite quotient or product gives a zero or a finite float.
theorem roundWithAccuracy_ne (s : Sign) (m : Nat) (e : Int) (acc : Accuracy) :
    roundWithAccuracy .binary64 s m e acc ≠ .notANumber := by
  unfold roundWithAccuracy
  dsimp only
  split <;> simp

-- A zero or finite float divided by one above zero or by a positive infinity is no NaN.
theorem div_ne_notANumber {a b : UnpackedFloat} (ha : a.isFinite = true) (hb : Positive b) :
    UnpackedFloat.div .binary64 a b ≠ .notANumber := by
  rcases hb with rfl | ⟨m, e, hm, rfl⟩
  · cases a <;> simp_all [UnpackedFloat.div, UnpackedFloat.isFinite]
  · cases a with
    | finite s m' e' hm' => exact roundWithAccuracy_ne _ _ _ _
    | _ => simp_all [UnpackedFloat.div, UnpackedFloat.isFinite]

theorem isNaN_div {x y : Float} (hx : isFinite x = true) (hy : Positive y.toModel.unpack) :
    isNaN (x / y) = false := by
  rw [isNaN_eq]
  rw [isFinite_eq] at hx
  have hdiv := div_ne_notANumber hx hy
  have hpack := unpack_pack_ne _ hdiv
  show (UnpackedFloat.unpack .binary64 (UnpackedFloat.pack .binary64
    (UnpackedFloat.div .binary64 x.toModel.unpack y.toModel.unpack))).isNaN = false
  revert hpack
  cases UnpackedFloat.unpack .binary64 (UnpackedFloat.pack .binary64
      (UnpackedFloat.div .binary64 x.toModel.unpack y.toModel.unpack)) <;>
    simp [UnpackedFloat.isNaN]

end SeriesDecoding.Binary64
