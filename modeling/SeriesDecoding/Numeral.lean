import SeriesDecoding.Binary64.Round
import SeriesDecoding.Text.DecimalDigit

namespace SeriesDecoding

-- What a numeral denotes: an optional sign, then a decimal or one of the words `inf`, `infinity`
-- and `nan` in any mix of cases. A decimal is digits with an optional point and fraction, or a
-- point and a fraction, then an optional exponent: `e` or `E`, an optional sign and digits.
inductive Numeral where
  -- The value `significand * 10 ^ exponent`, negated when `negative`.
  | decimal (negative : Bool) (significand : Nat) (exponent : Int)
  | infinity (negative : Bool)
  | notANumber
  deriving DecidableEq

namespace Numeral

-- The ASCII digit for a digit of any script; other ASCII code points unchanged; `none` for any
-- other code point.
def asciiDigit (c : Nat) : Option Nat :=
  if c < 128 then some c
  else (Text.digitValue? c).map (48 + ·)

def isDigit (c : Nat) : Bool := 48 ≤ c && c ≤ 57

-- The code point of an ASCII letter in lower case.
def lower (c : Nat) : Nat := if 65 ≤ c && c ≤ 90 then c + 32 else c

-- The number the ASCII digits spell.
def digitsValue (ds : List Nat) : Nat := ds.foldl (fun acc d => 10 * acc + (d - 48)) 0

-- The sign at the front of a numeral: whether it is a minus, and what follows it.
def sign : List Nat → Bool × List Nat
  | 45 :: rest => (true, rest)
  | 43 :: rest => (false, rest)
  | cs => (false, cs)

-- The exponent part of a decimal, which is empty or a mark, an optional sign and digits.
def exponentPart : List Nat → Option Int
  | [] => some 0
  | c :: rest =>
    if c == 101 || c == 69 then
      let (negative, ds) := sign rest
      if ds ≠ [] && ds.all isDigit then
        let e : Int := digitsValue ds
        some (if negative then -e else e)
      else none
    else none

-- The value of an unsigned decimal in ASCII, as significand and exponent.
def unsignedDecimal (cs : List Nat) : Option (Nat × Int) :=
  let whole := cs.takeWhile isDigit
  let rest := cs.dropWhile isDigit
  let (fraction, rest) := match rest with
    | 46 :: after => (after.takeWhile isDigit, after.dropWhile isDigit)
    | _ => ([], rest)
  -- a point must stand next to a digit
  if whole.isEmpty && fraction.isEmpty then none
  else match exponentPart rest with
    | some e => some (digitsValue (whole ++ fraction), e - fraction.length)
    | none => none

-- What an ASCII numeral denotes, if it is one.
def readAscii (cs : List Nat) : Option Numeral :=
  let (negative, body) := sign cs
  let word := body.map lower
  if word == (Text.ofString "inf").points || word == (Text.ofString "infinity").points then
    some (.infinity negative)
  else if word == (Text.ofString "nan").points then some .notANumber
  else (unsignedDecimal body).map fun (s, e) => .decimal negative s e

-- What a text denotes as a numeral, with the digits of every script read as decimal digits.
def read? (t : Text) : Option Numeral :=
  match t.points.mapM asciiDigit with
  | some cs => readAscii cs
  | none => none

-- The float of a numeral: for a decimal, the one nearest to its exact value, a tie going to the
-- even significand; infinite beyond the finite range and zero below half the least subnormal,
-- with the numeral's sign either way.
def toFloat : Numeral → Float
  | .notANumber => Float.ofBits 0x7ff8000000000000
  | .infinity negative => Float.ofBits (Binary64.bitsOf negative none).toUInt64
  | .decimal negative s e =>
    let digits : Int := (toString s).length
    -- the value lies from `10 ^ (digits + e - 1)` to below `10 ^ (digits + e)`
    if s = 0 then Binary64.ofRatio negative 0 1
    else if 310 ≤ digits + e then Float.ofBits (Binary64.bitsOf negative none).toUInt64
    else if digits + e ≤ -324 then Binary64.ofRatio negative 0 1
    else if 0 ≤ e then Binary64.ofRatio negative (s * Nat.pow 10 e.toNat) 1
    else Binary64.ofRatio negative s (Nat.pow 10 (-e).toNat)

example : read? "1.e3" = some (.decimal false 1 3) := by decide
example : read? ⟨[0x663, 101, 0x662]⟩ = some (.decimal false 3 2) := by decide +kernel
example : read? "-InFinity" = some (.infinity true) ∧ read? "." = none ∧ read? "1e" = none := by
  decide

end Numeral

end SeriesDecoding
