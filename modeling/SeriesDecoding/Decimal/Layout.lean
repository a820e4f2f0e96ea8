import SeriesDecoding.Decimal.Shortest
import SeriesDecoding.Text.Basic

namespace SeriesDecoding

-- The decisions of a notation for floats, which writes the digits of the shortest decimal.
structure FloatLayout where
  -- The least decimal exponent of the leading digit written without an exponent.
  leastPositional : Int
  -- The greatest decimal exponent of the leading digit written without an exponent.
  greatestPositional : Int
  -- Whether an integral value written positionally ends in a point and a zero.
  pointZero : Bool
  -- The mark between the digits and the exponent.
  mark : String
  -- Whether a non-negative exponent carries a plus sign.
  signedExponent : Bool
  -- The least number of exponent digits; fewer are padded with zeros in front.
  exponentWidth : Nat
  -- The word for infinity, after a minus sign when negative.
  infinity : String
  -- The word for every NaN, whatever its sign.
  notANumber : String

namespace FloatLayout

-- Value literals: positional from `1e-4` to below `1e16`, an integral value keeps `.0`, an exponent
-- has its sign and at least two digits, and the words are `inf` and `nan`.
def literal : FloatLayout :=
  { leastPositional := -4, greatestPositional := 15, pointZero := true, mark := "e",
    signedExponent := true, exponentWidth := 2, infinity := "inf", notANumber := "nan" }

-- JSON numbers: as value literals, with the words `Infinity` and `NaN`.
def json : FloatLayout := { literal with infinity := "Infinity", notANumber := "NaN" }

def zeros (n : Nat) : List Nat := List.replicate n 48

-- The code points of a decimal in this notation.
def decimal (layout : FloatLayout) (d : Decimal) : List Nat :=
  let digits := (Text.ofNat d.significand).points
  let count := digits.length
  -- the decimal exponent of the leading digit
  let lead : Int := (count : Int) - 1 + d.exponent
  if layout.leastPositional ≤ lead && lead ≤ layout.greatestPositional then
    let before := lead + 1
    if before ≤ 0 then [48, 46] ++ zeros (-before).toNat ++ digits
    else if count ≤ before.toNat then
      digits ++ zeros (before.toNat - count) ++ (if layout.pointZero then [46, 48] else [])
    else digits.take before.toNat ++ [46] ++ digits.drop before.toNat
  else
    let power := (Text.ofNat lead.natAbs).points
    let sign := if lead < 0 then [45] else if layout.signedExponent then [43] else []
    digits.take 1 ++ (if 1 < count then 46 :: digits.drop 1 else []) ++
      (Text.ofString layout.mark).points ++ sign ++ zeros (layout.exponentWidth - power.length) ++
      power

-- The text of a float: the words for NaN and infinity, else its shortest decimal in the notation.
def write (layout : FloatLayout) (x : Float) : Text :=
  match Binary64.parts x with
  | .notANumber => layout.notANumber
  | .infinite negative => (if negative then "-" else "") ++ layout.infinity
  | .finite negative m q =>
    ⟨(if negative then [45] else []) ++ layout.decimal (Decimal.shortest m q)⟩

example : (literal.decimal ⟨1, 16⟩, literal.decimal ⟨1, -5⟩, literal.decimal ⟨1, -4⟩) =
    ((Text.ofString "1e+16").points, (Text.ofString "1e-05").points,
      (Text.ofString "0.0001").points) := by decide

example : (literal.decimal ⟨1, 15⟩, literal.decimal ⟨12345, -2⟩, literal.decimal ⟨0, 0⟩) =
    ((Text.ofString "1000000000000000.0").points, (Text.ofString "123.45").points,
      (Text.ofString "0.0").points) := by decide

end FloatLayout

end SeriesDecoding
