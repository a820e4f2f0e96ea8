import SeriesDecoding.Binary64.Round

namespace SeriesDecoding

-- The decimal `significand * 10 ^ exponent`.
structure Decimal where
  significand : Nat
  exponent : Int
  deriving DecidableEq, Inhabited

namespace Decimal

-- The reals that round to one binary64 value, as numerators over the common denominator `den`: the
-- value `centre / den` and the ends `low / den` and `high / den`, halfway to each neighbour and
-- included when `closed`, that is when the significand is even and so wins a tie.
structure Interval where
  centre : Nat
  low : Nat
  high : Nat
  den : Nat
  closed : Bool

-- The rounding interval of the positive binary64 value `m * 2 ^ q`. The gap to the value below is
-- half the gap above when `m` is the least significand of a binade that has one below it.
def Interval.ofBinary (m : Nat) (q : Int) : Interval :=
  let up := Nat.pow 2 q.toNat
  let narrow := m == Nat.pow 2 52 && decide (-1074 < q)
  { centre := 4 * m * up
    low := (if narrow then 4 * m - 1 else 4 * m - 2) * up
    high := (4 * m + 2) * up
    den := 4 * Nat.pow 2 (-q).toNat
    closed := m % 2 == 0 }

-- Whether the decimal `c * 10 ^ g` lies in the interval. Both sides are compared as numerators over
-- the denominator `den * 10 ^ (-g)`.
def Interval.holds (iv : Interval) (c : Nat) (g : Int) : Bool :=
  let point := c * Nat.pow 10 g.toNat * iv.den
  let scale := Nat.pow 10 (-g).toNat
  if iv.closed then iv.low * scale ≤ point && point ≤ iv.high * scale
  else iv.low * scale < point && point < iv.high * scale

-- The number of whole units of `10 ^ g` in the centre of the interval.
def Interval.floorAt (iv : Interval) (g : Int) : Nat :=
  iv.centre * Nat.pow 10 (-g).toNat / (iv.den * Nat.pow 10 g.toNat)

-- Whether the centre lies below `10 ^ k`.
def Interval.below (iv : Interval) (k : Int) : Bool :=
  iv.centre * Nat.pow 10 (-k).toNat < iv.den * Nat.pow 10 k.toNat

-- Moves `k` toward the least exponent with the centre below `10 ^ k`, a step at a time.
def Interval.settle (iv : Interval) : Nat → Int → Int
  | 0, k => k
  | fuel + 1, k =>
    if !iv.below k then iv.settle fuel (k + 1)
    else if iv.below (k - 1) then iv.settle fuel (k - 1)
    else k

-- The number of digits before the point of the centre written in decimal: the least `k` with the
-- centre below `10 ^ k`. It starts from the binary logarithms, which put the centre's decimal
-- logarithm within one of `(log2 centre - log2 den) * 1233 / 4096`, and then settles.
def Interval.magnitude (iv : Interval) : Int :=
  let a : Int := Nat.log2 iv.centre
  let b : Int := Nat.log2 iv.den
  iv.settle 8 ((a - b) * 1233 / 4096 + 1)

-- Of the centre's two neighbours on the grid of `10 ^ g`, the units of the one that lies in the
-- interval; of two, the nearer; of two equally near, the even one.
def Interval.pick (iv : Interval) (g : Int) : Option Nat :=
  let c := iv.floorAt g
  let below := iv.holds c g
  let above := iv.holds (c + 1) g
  if below && above then
    let centre := iv.centre * Nat.pow 10 (-g).toNat
    let unit := Nat.pow 10 g.toNat * iv.den
    let toBelow := centre - c * unit
    let toAbove := (c + 1) * unit - centre
    if toBelow < toAbove then some c
    else if toAbove < toBelow then some (c + 1)
    else if c % 2 == 0 then some c else some (c + 1)
  else if below then some c
  else if above then some (c + 1)
  else none

-- The decimal without the zeros at the end of its significand.
def trimZeros : Nat → Decimal → Decimal
  | 0, d => d
  | fuel + 1, d =>
    if d.significand ≠ 0 && d.significand % 10 == 0 then
      trimZeros fuel ⟨d.significand / 10, d.exponent + 1⟩
    else d

-- The decimal with the fewest significant digits in the interval, nearest to its centre among
-- those, found on the grids of 1 to 17 significant digits. If any point of a grid lies in the
-- interval then one of the centre's two neighbours on it does, so trying those two is enough; 17
-- digits always suffice for binary64.
def Interval.shortest (iv : Interval) : Decimal :=
  let k := iv.magnitude
  let found := (List.range 17).findSome? fun i =>
    (iv.pick (k - (i + 1 : Nat))).map fun c => (⟨c, k - (i + 1 : Nat)⟩ : Decimal)
  trimZeros 20 (found.getD ⟨iv.floorAt (k - 17), k - 17⟩)

-- The shortest decimal that reads back as the binary64 value `m * 2 ^ q`, without zeros at the end
-- of its significand; zero for a zero significand.
def shortest (m : Nat) (q : Int) : Decimal :=
  if m = 0 then ⟨0, 0⟩ else (Interval.ofBinary m q).shortest

example : shortest 1 (-1074) = ⟨5, -324⟩ := by decide +kernel
example : shortest (Nat.pow 2 52) (-52) = ⟨1, 0⟩ := by decide +kernel

end Decimal

end SeriesDecoding
