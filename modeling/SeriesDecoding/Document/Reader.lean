import SeriesDecoding.Document.Basic
import SeriesDecoding.Numeral

namespace SeriesDecoding

-- The two kinds of container of a JSON text.
inductive Container where
  | array
  | object
  deriving DecidableEq, Inhabited

def Container.name : Container → Text
  | .array => "array"
  | .object => "object"

-- A limit of the reader that a JSON text goes past.
inductive ReadLimit where
  -- An integer has more than `Reader.digitLimit` digits; the count is given.
  | digits (count : Nat)
  -- A container is opened when no more may be open; its kind is given.
  | depth (container : Container)
  deriving DecidableEq, Inhabited

-- Why a text is not read as a document.
inductive ReadFault where
  -- The text breaks the JSON grammar.
  | malformed
  -- The text goes past a limit of the reader.
  | exceeds (limit : ReadLimit)
  deriving DecidableEq, Inhabited

namespace Reader

-- The most digits an integer may have.
def digitLimit : Nat := 4300

-- The fault of a container of kind `c` opened with room for `room` more, if there is none.
def tooDeep (room : Nat) (c : Container) : Option ReadFault :=
  if room = 0 then some (.exceeds (.depth c)) else none

-- Whether a code point is a blank between tokens.
def isSpace (c : Nat) : Bool := c == 32 || c == 9 || c == 10 || c == 13

-- The code points after the leading blanks.
def skipSpace (cs : List Nat) : List Nat := cs.dropWhile isSpace

def isDigit (c : Nat) : Bool := 48 ≤ c && c ≤ 57

-- The value of a hexadecimal digit of either case.
def hexValue (c : Nat) : Option Nat :=
  if 48 ≤ c && c ≤ 57 then some (c - 48)
  else if 97 ≤ c && c ≤ 102 then some (c - 87)
  else if 65 ≤ c && c ≤ 70 then some (c - 55)
  else none

-- The value of four hexadecimal digits.
def hex4 (a b c d : Nat) : Option Nat := do
  let a ← hexValue a
  let b ← hexValue b
  let c ← hexValue c
  let d ← hexValue d
  pure (((a * 16 + b) * 16 + c) * 16 + d)

-- The code point that a one-letter escape stands for.
def escapeLetter (c : Nat) : Option Nat :=
  match c with
  | 34 => some 34
  | 92 => some 92
  | 47 => some 47
  | 98 => some 8
  | 102 => some 12
  | 110 => some 10
  | 114 => some 13
  | 116 => some 9
  | _ => none

def isHigh (u : Nat) : Bool := 0xd800 ≤ u && u < 0xdc00

def isLow (u : Nat) : Bool := 0xdc00 ≤ u && u < 0xe000

def joinPair (high low : Nat) : Nat := 0x10000 + (high - 0xd800) * 0x400 + (low - 0xdc00)

-- The code points read so far, most recent first, after one more `\u` escape of value `v`;
-- `pending` says that the most recent one is a high surrogate written as the escape just before,
-- which a low surrogate escape joins.
def pushEscape (pending : Bool) (acc : List Nat) (v : Nat) : List Nat :=
  match acc with
  | u :: rest => if pending && isLow v then joinPair u v :: rest else v :: acc
  | [] => [v]

-- The rest of a string after its opening quote: its code points, reversed onto `acc`, up to the
-- closing quote, and what follows that quote; a control character is refused. `pending` says that
-- the head of `acc` is a high surrogate written as the escape just read.
def readString (pending : Bool) (acc : List Nat) : List Nat → Except ReadFault (Text × List Nat)
  | [] => .error .malformed
  | 34 :: rest => .ok (⟨acc.reverse⟩, rest)
  | 92 :: 117 :: a :: b :: c :: d :: rest =>
    match hex4 a b c d with
    | none => .error .malformed
    | some v =>
      readString (isHigh v) (pushEscape pending acc v) rest
  | 92 :: e :: rest =>
    match escapeLetter e with
    | some c => readString false (c :: acc) rest
    | none => .error .malformed
  | c :: rest => if c < 32 then .error .malformed else readString false (c :: acc) rest

-- The digits at the front with the given sign, and what follows them, if there is a digit.
def signedDigits (negative : Bool) (cs : List Nat) : Option (Bool × List Nat × List Nat) :=
  match cs.takeWhile isDigit with
  | [] => none
  | ds => some (negative, ds, cs.dropWhile isDigit)

-- The exponent digits after an exponent mark, with their sign, if there are any.
def exponentDigits : List Nat → Option (Bool × List Nat × List Nat)
  | 43 :: rest => signedDigits false rest
  | 45 :: rest => signedDigits true rest
  | rest => signedDigits false rest

-- A number at the front of the text: an integer, or a float when it has a fraction or an exponent,
-- and what follows it.
def readNumber (cs : List Nat) : Except ReadFault (Document × List Nat) :=
  let (negative, body) := match cs with
    | 45 :: rest => (true, rest)
    | _ => (false, cs)
  let whole : Option (List Nat × List Nat) := match body with
    | 48 :: rest => some ([48], rest)
    | d :: rest => if 49 ≤ d && d ≤ 57 then
        some (d :: rest.takeWhile isDigit, rest.dropWhile isDigit) else none
    | [] => none
  match whole with
  | none => .error .malformed
  | some (whole, rest) =>
    let (fraction, rest) := match rest with
      | 46 :: d :: after => if isDigit d then
          (d :: after.takeWhile isDigit, after.dropWhile isDigit) else ([], rest)
      | _ => ([], rest)
    let (exponent, rest) := match rest with
      | m :: after => if m == 101 || m == 69 then
          match exponentDigits after with
          | some (sign, ds, after) => (some (sign, ds), after)
          | none => (none, rest)
        else (none, rest)
      | [] => (none, rest)
    match fraction, exponent with
    | [], none =>
      if digitLimit < whole.length then .error (.exceeds (.digits whole.length))
      else
        let n : Int := Numeral.digitsValue whole
        .ok (.int (if negative then -n else n), rest)
    | _, _ =>
      let e : Int := match exponent with
        | some (sign, ds) =>
          if sign then -(Numeral.digitsValue ds : Int) else Numeral.digitsValue ds
        | none => 0
      let numeral := Numeral.decimal negative (Numeral.digitsValue (whole ++ fraction))
        (e - fraction.length)
      .ok (.float numeral.toFloat, rest)

mutual

-- A value at the front of the text with room for `room` more open containers, and what follows it;
-- `fuel` bounds the nesting and the number of items read. A container opened when there is no room
-- left is refused as soon as it opens, whatever follows it.
def readValue (room : Nat) : Nat → List Nat → Except ReadFault (Document × List Nat)
  | 0, _ => .error .malformed
  | fuel + 1, cs =>
    match cs with
    | 34 :: rest => do
      let (s, r) ← readString false [] rest
      pure (.str s, r)
    | 123 :: rest =>
      match tooDeep room .object with
      | some e => .error e
      | none =>
        match skipSpace rest with
        | 125 :: r => .ok (.object [], r)
        | r => readEntries (room - 1) fuel [] r
    | 91 :: rest =>
      match tooDeep room .array with
      | some e => .error e
      | none =>
        match skipSpace rest with
        | 93 :: r => .ok (.array [], r)
        | r => readItems (room - 1) fuel [] r
    | 110 :: 117 :: 108 :: 108 :: rest => .ok (.null, rest)
    | 116 :: 114 :: 117 :: 101 :: rest => .ok (.bool true, rest)
    | 102 :: 97 :: 108 :: 115 :: 101 :: rest => .ok (.bool false, rest)
    | 78 :: 97 :: 78 :: rest => .ok (.float Numeral.notANumber.toFloat, rest)
    | 73 :: 110 :: 102 :: 105 :: 110 :: 105 :: 116 :: 121 :: rest =>
      .ok (.float (Numeral.infinity false).toFloat, rest)
    | 45 :: 73 :: 110 :: 102 :: 105 :: 110 :: 105 :: 116 :: 121 :: rest =>
      .ok (.float (Numeral.infinity true).toFloat, rest)
    | _ => readNumber cs

-- The items of an array from the first one on, reversed onto `acc`, and what follows the closing
-- bracket; `room` more containers may open inside the array.
def readItems (room : Nat) :
    Nat → List Document → List Nat → Except ReadFault (Document × List Nat)
  | 0, _, _ => .error .malformed
  | fuel + 1, acc, cs => do
    let (v, r) ← readValue room fuel cs
    match skipSpace r with
    | 44 :: r => readItems room fuel (v :: acc) (skipSpace r)
    | 93 :: r => .ok (.array (v :: acc).reverse, r)
    | _ => .error .malformed

-- The entries of an object from the first key on, set into `acc`, and what follows the closing
-- brace; `room` more containers may open inside the object.
def readEntries (room : Nat) :
    Nat → List (Text × Document) → List Nat → Except ReadFault (Document × List Nat)
  | 0, _, _ => .error .malformed
  | fuel + 1, acc, cs =>
    match cs with
    | 34 :: rest => do
      let (k, r) ← readString false [] rest
      match skipSpace r with
      | 58 :: r =>
        let (v, r) ← readValue room fuel (skipSpace r)
        let acc := Document.setField acc k v
        match skipSpace r with
        | 44 :: r => readEntries room fuel acc (skipSpace r)
        | 125 :: r => .ok (.object acc, r)
        | _ => .error .malformed
      | _ => .error .malformed
    | _ => .error .malformed

end

end Reader

-- The document a JSON text denotes, with blanks allowed around it and nothing else after it, read
-- with room for `room` containers open at once. Besides the JSON literals, `NaN`, `Infinity` and
-- `-Infinity` are floats. The text is read from left to right, and the first fault met is the one
-- reported.
def Document.read (room : Nat) (t : Text) : Except ReadFault Document :=
  let cs := Reader.skipSpace t.points
  match Reader.readValue room (2 * cs.length + 2) cs with
  | .error e => .error e
  | .ok (d, rest) => if Reader.skipSpace rest = [] then .ok d else .error .malformed

end SeriesDecoding
