import SeriesDecoding.Series.Basic
import SeriesDecoding.Numeral
import SeriesDecoding.Text.Blank

namespace SeriesDecoding.Sample

-- The float a sample value text denotes. A text holding an underscore or with blanks at either end
-- is refused, as is one that is no numeral.
def readValue (t : Text) : Except Fault Float :=
  if t.holds 95 || Text.trim t != t then .error (.numeral t)
  else match Numeral.read? t with
    | some n => .ok n.toFloat
    | none => .error (.numeral t)

-- The value with an infinity or a NaN replaced by zero, and which of the two it was.
def sanitize (x : Float) : Float × Option Anomaly :=
  match Binary64.parts x with
  | .infinite _ => (Binary64.zero, some .infinite)
  | .notANumber => (Binary64.zero, some .notANumber)
  | .finite .. => (x, none)

-- The timestamp of a data point as a float, if it is an integer or a float finite as a float; a
-- truth value is not a timestamp.
def timestamp? : Document → Option Float
  | .int n => Binary64.ofInt? n
  | .float x => if Binary64.isFinite x then some x else none
  | _ => none

-- The sample of a data point, an array of a timestamp and a value text, and the anomaly of its
-- value, on the grid of `resolution`. A malformed point is refused before its value is read, and
-- its value before its timestamp is snapped.
def ofPair (resolution : Number) (query : Text) (pair : Document) :
    Except Fault (Sample × Option Anomaly) :=
  let malformed : Except Fault (Sample × Option Anomaly) :=
    .error (.decode query (.shape (.pointFormat pair)))
  match pair with
  | .array [t, v] =>
    match timestamp? t, v with
    | some ts, .str s =>
      match readValue s with
      | .error _ => .error (.decode query (.shape (.sampleValue pair s)))
      | .ok x =>
        let (value, anomaly) := sanitize x
        match Number.snap resolution (.float ts) with
        | .error e => .error (.arith e)
        | .ok stamp => .ok (⟨stamp, value⟩, anomaly)
    | _, _ => malformed
  | _ => malformed

end SeriesDecoding.Sample
