import SeriesDecoding.Log
import SeriesDecoding.Sink.Bound

namespace SeriesDecoding

-- The counts of the warnings seen, least recently seen first. A throttle logs each warning while
-- its count is within `maxOccurrences` and then keeps quiet about it, and counts as many distinct
-- warnings as `maxTracked` admits.
structure Throttle where
  maxOccurrences : Bound
  maxTracked : Bound
  seen : List (Warning × Nat)
  admits_one_occurrence : maxOccurrences.admits 1 = true
  admits_one_tracked : maxTracked.admits 1 = true
  admits_length : maxTracked.admits seen.length = true

namespace Throttle

-- The logger of throttled warnings.
def logger : Text := "promresults.warnings"

def empty (maxOccurrences maxTracked : Bound) (ho : maxOccurrences.admits 1 = true)
    (ht : maxTracked.admits 1 = true) : Throttle :=
  ⟨maxOccurrences, maxTracked, [], ho, ht, Bound.admits_zero _⟩

-- How often `w` was counted, zero when it is not tracked.
def count (t : Throttle) (w : Warning) : Nat :=
  match t.seen.find? (·.1 == w) with
  | some e => e.2
  | none => 0

def tracked (t : Throttle) : Nat := t.seen.length

-- The entry logged for the `n`-th occurrence of a warning.
def entry (w : Warning) (n : Nat) : LogEntry :=
  ⟨logger, w.message ++ "\nQuery: " ++ w.query ++ "\nLabels: " ++ w.labels,
    [("query", .str w.query), ("labels", .str w.labels), ("occurrence", .int n)]⟩

-- The throttle after receiving `w`, and the entry logged for it unless it came too often. A warning
-- that comes again is counted on and moves to the end; a new one is counted from one at the end,
-- and when that makes too many, the one seen least recently is forgotten.
def receive (t : Throttle) (w : Warning) : Throttle × Option LogEntry :=
  let n := t.count w + 1
  ({ t with
      seen := t.maxTracked.keepLast (t.seen.filter (·.1 != w) ++ [(w, n)])
      admits_length := t.maxTracked.admits_length_keepLast _ },
    if t.maxOccurrences.admits n then some (entry w n) else none)

def reset (t : Throttle) : Throttle := { t with seen := [], admits_length := Bound.admits_zero _ }

end Throttle

end SeriesDecoding
