namespace SeriesDecoding.Binary64

-- The numerator and denominator of `num / den / 2 ^ e`.
def scaled (num den : Nat) (e : Int) : Nat × Nat :=
  (num * Nat.pow 2 (-e).toNat, den * Nat.pow 2 e.toNat)

-- The exponent `e` with `2 ^ 52 ≤ num / den / 2 ^ e < 2 ^ 53`, for positive `num` and `den`. With
-- `a` and `b` the binary logarithms of `num` and `den`, the ratio lies strictly between `2 ^ (a - b
-- - 1)` and `2 ^ (a - b + 1)`, so `a - b - 52` is right or one too large.
def scaleExponent (num den : Nat) : Int :=
  let e : Int := (Nat.log2 num : Int) - (Nat.log2 den : Int) - 52
  let (n, d) := scaled num den e
  if n < Nat.pow 2 52 * d then e - 1 else e

-- The quotient `n / d` rounded to the nearest natural number, a tie going to the even one.
def roundHalfEven (n d : Nat) : Nat :=
  let q := n / d
  let r := n % d
  if d < 2 * r || (2 * r == d && q % 2 == 1) then q + 1 else q

-- The nearest binary64 magnitude to `num / den` as significand and exponent, ties to the even
-- significand; `none` when it rounds beyond the largest finite magnitude. The denominator is
-- positive. Integers, quotients of integers and decimal numerals all become floats through it, so
-- each is correctly rounded.
def roundRatio (num den : Nat) : Option (Nat × Int) :=
  if num = 0 then some (0, -1074)
  else
    let e := max (scaleExponent num den) (-1074)
    let (n, d) := scaled num den e
    let q := roundHalfEven n d
    -- rounding up may reach the next power of two, which has one bit less
    let (q, e) := if q = Nat.pow 2 53 then (Nat.pow 2 52, e + 1) else (q, e)
    if 971 < e then none else some (q, e)

-- The bits of a binary64 number with the given sign and magnitude `q * 2 ^ e`, as returned by
-- `roundRatio`; an absent magnitude is infinity.
def bitsOf (negative : Bool) : Option (Nat × Int) → Nat
  | none => (if negative then Nat.pow 2 63 else 0) + 2047 * Nat.pow 2 52
  | some (q, e) =>
    let sign := if negative then Nat.pow 2 63 else 0
    if q < Nat.pow 2 52 then sign + q
    else sign + (e + 1075).toNat * Nat.pow 2 52 + (q - Nat.pow 2 52)

-- The float nearest to `num / den`, negated when `negative`; infinite past the finite range.
def ofRatio (negative : Bool) (num den : Nat) : Float :=
  Float.ofBits (bitsOf negative (roundRatio num den)).toUInt64

-- What the bits of a binary64 number spell.
inductive Parts where
  -- The value `significand * 2 ^ exponent`, negated when `negative`.
  | finite (negative : Bool) (significand : Nat) (exponent : Int)
  | infinite (negative : Bool)
  | notANumber

-- The sign, significand and exponent of a float, read from its bits. Subnormal numbers and zero
-- have exponent `-1074`; normal ones have a significand from `2 ^ 52` to below `2 ^ 53`. The
-- shortest decimal and the snapping of timestamps are computed from these in exact arithmetic.
def parts (x : Float) : Parts :=
  let bits : Nat := x.toBits.toNat
  let negative : Bool := bits / Nat.pow 2 63 == 1
  let biased : Nat := bits / Nat.pow 2 52 % 2048
  let fraction : Nat := bits % Nat.pow 2 52
  if biased = 2047 then
    if fraction = 0 then .infinite negative else .notANumber
  else if biased = 0 then .finite negative fraction (-1074)
  else .finite negative (fraction + Nat.pow 2 52) ((biased : Int) - 1075)

def isFinite (x : Float) : Bool :=
  match parts x with
  | .finite .. => true
  | _ => false

def isNaN (x : Float) : Bool :=
  match parts x with
  | .notANumber => true
  | _ => false

def isInfinite (x : Float) : Bool :=
  match parts x with
  | .infinite _ => true
  | _ => false

-- The float nearest to an integer, or `none` when it rounds beyond the finite range.
def ofInt? (n : Int) : Option Float :=
  match roundRatio n.natAbs 1 with
  | none => none
  | some m => some (Float.ofBits (bitsOf (n < 0) (some m)).toUInt64)

def zero : Float := Float.ofBits 0

example : roundRatio 1 3 = some (6004799503160661, -54) := by decide

end SeriesDecoding.Binary64
