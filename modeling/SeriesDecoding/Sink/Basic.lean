import SeriesDecoding.Sink.Ring
import SeriesDecoding.Sink.Throttle
import SeriesDecoding.Fault

namespace SeriesDecoding

-- Where the warnings of a decoder go: nowhere, when they are dropped; a record of every warning
-- since it was last cleared; a ring of the last warnings; or a throttle that logs them. Each kind
-- offers only some operations, and asking one for another is refused, naming the kind.
inductive Sink where
  | none
  | record (records : List Warning)
  | ring (ring : Ring)
  | throttle (throttle : Throttle)

-- How a sink is asked to be made.
inductive SinkSpec where
  | none
  | record
  | ring (maxSize : Number)
  | throttle (maxOccurrences maxTracked : Number)

namespace SinkSpec

-- The sink made to a request. A ring size or throttle setting below one is refused, the setting of
-- occurrences before that of tracked warnings; a ring size must also be an integer, at most
-- `Ring.capacityLimit`.
def build : SinkSpec → Except Fault Sink
  | .none => .ok .none
  | .record => .ok (.record [])
  | .ring (.int n) =>
    if h : 1 ≤ n then
      if Ring.capacityLimit < n.toNat then .error .capacityOverflow
      else .ok (.ring (Ring.empty n.toNat (by omega)))
    else .error (.setting .maxSize)
  | .ring (.float x) =>
    match Bound.ofNumber? (.float x) with
    | .none => .error (.setting .maxSize)
    | .some _ => .error .capacityNotInteger
  | .throttle m t =>
    match hm : Bound.ofNumber? m, ht : Bound.ofNumber? t with
    | .none, _ => .error (.setting .maxOccurrences)
    | .some _, .none => .error (.setting .maxTracked)
    | .some bm, .some bt =>
      .ok (.throttle (Throttle.empty bm bt (Bound.admits_one_of_ofNumber? hm)
        (Bound.admits_one_of_ofNumber? ht)))

end SinkSpec

namespace Sink

def holder : Sink → String
  | .none => "NoneType"
  | .record _ => "InMemoryWarningSink"
  | .ring _ => "RingBufferWarningSink"
  | .throttle _ => "LoggingWarningSink"

-- The sink after receiving a warning from a decoder, and what it logged; with no sink the warning
-- is dropped.
def receive : Sink → Warning → Sink × List LogEntry
  | .none, _ => (.none, [])
  | .record rs, w => (.record (rs ++ [w]), [])
  | .ring r, w => (.ring (r.push w), [])
  | .throttle t, w => let (t', e) := t.receive w; (.throttle t', e.toList)

-- The sink after receiving warnings in order, and all it logged.
def receiveAll (s : Sink) : List Warning → Sink × List LogEntry
  | [] => (s, [])
  | w :: ws =>
    let (next, logs) := s.receive w
    let (last, more) := next.receiveAll ws
    (last, logs ++ more)

-- Receiving two runs of warnings is receiving the first, then the second from where it left off.
theorem receiveAll_append (s : Sink) (ws vs : List Warning) :
    s.receiveAll (ws ++ vs) =
      ((s.receiveAll ws).1.receiveAll vs |>.1,
        (s.receiveAll ws).2 ++ ((s.receiveAll ws).1.receiveAll vs).2) := by
  induction ws generalizing s with
  | nil => simp [receiveAll]
  | cons w ws ih => simp [receiveAll, ih]

-- The refusal of an operation the sink does not have.
def refuse (s : Sink) (operation : String) : Fault := .noOperation s.holder operation

-- The sink after being sent a warning directly, which needs a sink.
def warn (s : Sink) (w : Warning) : Except Fault (Sink × List LogEntry) :=
  match s with
  | .none => .error (s.refuse "warn")
  | _ => .ok (s.receive w)

-- The warnings kept, oldest first.
def read : Sink → Except Fault (List Warning)
  | .record rs => .ok rs
  | .ring r => .ok r.records
  | s => .error (s.refuse "read")

def length : Sink → Except Fault Nat
  | .record rs => .ok rs.length
  | .ring r => .ok r.records.length
  | s => .error (.noLength s.holder)

-- The record with every warning dropped.
def clear : Sink → Except Fault Sink
  | .record _ => .ok (.record [])
  | s => .error (s.refuse "clear")

-- How often a throttle counted a warning.
def occurrences : Sink → Warning → Except Fault Nat
  | .throttle t, w => .ok (t.count w)
  | s, _ => .error (s.refuse "occurrences")

def tracked : Sink → Except Fault Nat
  | .throttle t => .ok t.tracked
  | s => .error (s.refuse "tracked")

def reset : Sink → Except Fault Sink
  | .throttle t => .ok (.throttle t.reset)
  | s => .error (s.refuse "reset")

end Sink

end SeriesDecoding
