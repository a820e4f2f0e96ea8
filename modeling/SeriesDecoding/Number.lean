import SeriesDecoding.Binary64.Round

namespace SeriesDecoding

-- An unbounded integer or a binary64 float. An integer stays exact until it must become a float:
-- a quotient of two integers is rounded once from the exact ratio, and a product of two integers
-- is exact before it is converted.
inductive Number where
  | int (n : Int)
  | float (x : Float)
  deriving Inhabited

-- Why an arithmetic step has no value.
inductive ArithFault where
  -- An integer divided by the integer zero.
  | divisionByZero
  -- A division by zero in which a float takes part.
  | floatDivisionByZero
  -- A quotient of integers beyond the finite range of floats.
  | quotientTooLarge
  -- An integer beyond the finite range of floats.
  | intTooLarge
  | infinityToInt
  | notANumberToInt
  deriving DecidableEq, Inhabited

namespace ArithFault

def kindName : ArithFault → String
  | .divisionByZero | .floatDivisionByZero => "ZeroDivisionError"
  | .quotientTooLarge | .intTooLarge | .infinityToInt => "OverflowError"
  | .notANumberToInt => "ValueError"

def message : ArithFault → String
  | .divisionByZero => "division by zero"
  | .floatDivisionByZero => "float division by zero"
  | .quotientTooLarge => "integer division result too large for a float"
  | .intTooLarge => "int too large to convert to float"
  | .infinityToInt => "cannot convert float infinity to integer"
  | .notANumberToInt => "cannot convert float NaN to integer"

end ArithFault

namespace Number

-- The float nearest to a number; an integer beyond the finite range has none.
def toFloat : Number → Except ArithFault Float
  | .int n => match Binary64.ofInt? n with
    | some x => .ok x
    | none => .error .intTooLarge
  | .float x => .ok x

-- Whether the number is zero or less; a NaN is not.
def atMostZero : Number → Bool
  | .int n => n ≤ 0
  | .float x => x.le 0

-- The quotient as a float. Two integers give the float nearest to their exact ratio, negative when
-- exactly one of them is; otherwise both are converted to floats and divided.
def divide (a b : Number) : Except ArithFault Float :=
  match a, b with
  | .int m, .int n =>
    if n = 0 then .error .divisionByZero
    else
      match Binary64.roundRatio m.natAbs n.natAbs with
      | none => .error .quotientTooLarge
      | some q => .ok (Float.ofBits (Binary64.bitsOf ((m < 0) != (n < 0)) (some q)).toUInt64)
  | a, b => do
    let x ← a.toFloat
    let y ← b.toFloat
    if y == 0 then .error .floatDivisionByZero else .ok (x / y)

-- The integer nearest to a float, a tie going to the even one.
def roundEven (x : Float) : Except ArithFault Int :=
  match Binary64.parts x with
  | .notANumber => .error .notANumberToInt
  | .infinite _ => .error .infinityToInt
  | .finite negative m q =>
    let magnitude : Nat :=
      if 0 ≤ q then m * Nat.pow 2 q.toNat else Binary64.roundHalfEven m (Nat.pow 2 (-q).toNat)
    .ok (if negative then -(magnitude : Int) else magnitude)

-- The product of an integer and a number: exact for an integer, a float product otherwise.
def times (n : Int) : Number → Except ArithFault Number
  | .int r => .ok (.int (n * r))
  | .float r => do
    let x ← (Number.int n).toFloat
    .ok (.float (x * r))

-- The multiple of `r` nearest to `t`, as a float: the quotient `t / r` rounded to an integer, a tie
-- going to the even one, times `r`.
def snap (r t : Number) : Except ArithFault Float := do
  let quotient ← t.divide r
  let count ← roundEven quotient
  let product ← times count r
  product.toFloat

end Number

end SeriesDecoding
