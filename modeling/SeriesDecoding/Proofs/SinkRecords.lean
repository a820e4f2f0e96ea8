import Mathlib
import SeriesDecoding.Proofs.ThrottleHistory
import SeriesDecoding.Proofs.WarningTrace

namespace SeriesDecoding

namespace Ring

variable {α : Type}

-- Keeping the last `n` items, then adding more, keeps what adding them first would keep.
theorem keepLast_keepLast_append (n : Nat) (a b : List α) :
    keepLast n (keepLast n a ++ b) = keepLast n (a ++ b) := by
  by_cases hb : n ≤ b.length
  · rw [keepLast_append_of_le _ hb, keepLast_append_of_le _ hb]
  · -- the older items still count, and those kept are the last of them
    simp only [keepLast, List.length_append, List.length_drop, List.drop_append, List.drop_drop]
    congr 2 <;> omega

@[simp] theorem capacity_empty (capacity : Nat) (h : 0 < capacity) :
    (empty capacity h).capacity = capacity := rfl

-- The ring after receiving warnings in order.
def pushAll (r : Ring) (ws : List Warning) : Ring := ws.foldl push r

@[simp] theorem capacity_pushAll (r : Ring) (ws : List Warning) :
    (r.pushAll ws).capacity = r.capacity := by
  induction ws generalizing r with
  | nil => rfl
  | cons w ws ih =>
    show ((r.push w).pushAll ws).capacity = r.capacity
    rw [ih, capacity_push]

-- The run lemma of a ring: it holds the last of all it received, up to its capacity.
@[simp] theorem records_pushAll (r : Ring) (ws : List Warning) :
    (r.pushAll ws).records = keepLast r.capacity (r.records ++ ws) := by
  induction ws generalizing r with
  | nil => simp [pushAll, keepLast_of_length_le r.length_le]
  | cons w ws ih =>
    have hstep : (r.pushAll (w :: ws)) = (r.push w).pushAll ws := rfl
    rw [hstep, ih, capacity_push, records_push, keepLast_keepLast_append, List.append_assoc,
      List.singleton_append]

end Ring

namespace Sink

@[simp] theorem receiveAll_ring (r : Ring) (ws : List Warning) :
    (Sink.ring r).receiveAll ws = (.ring (r.pushAll ws), []) := by
  induction ws generalizing r with
  | nil => rfl
  | cons w ws ih => simp [receiveAll, receive, ih, Ring.pushAll]

@[simp] theorem receiveAll_record (rs ws : List Warning) :
    (Sink.record rs).receiveAll ws = (.record (rs ++ ws), []) := by
  induction ws generalizing rs with
  | nil => simp [receiveAll]
  | cons w ws ih => simp [receiveAll, receive, ih]

end Sink

namespace Session

-- The warnings a step sends to the sink of a session with decoder `d`: those of its decoding, the
-- one it warns directly, or none.
def Step.sent (d : Decoder) : Step → List Warning
  | .decode q raw => (Response.decodeWithin Request.room d.resolution q raw).warnings
  | .decodeBody q body => (Response.decodeBodyWithin bodyRoom d.resolution q body).warnings
  | .warn w => [w]
  | _ => []

-- The warnings a run of steps sends, in order.
def sentAll (d : Decoder) (xs : List Step) : List Warning := xs.flatMap (Step.sent d)

def Step.isClear : Step → Bool
  | .clear => true
  | _ => false

-- The steps after the last one that clears, or all of them when none clears.
def sinceClear (xs : List Step) : List Step := (xs.reverse.takeWhile fun x => !x.isClear).reverse

theorem sinceClear_append_singleton (xs : List Step) (x : Step) :
    sinceClear (xs ++ [x]) = if x.isClear then [] else sinceClear xs ++ [x] := by
  cases hx : x.isClear <;> simp [sinceClear, hx]

theorem after_append_singleton (s : Session) (xs : List Step) (x : Step) :
    s.after (xs ++ [x]) = ((s.after xs).step x).1 := by
  simp [after, List.foldl_append]

-- A step of a session whose sink is a ring sends its warnings to the ring and keeps the decoder;
-- clearing and resetting a ring are refused and change nothing.
theorem step_ring (r : Ring) (d : Decoder) (x : Step) :
    (Session.step ⟨.ring r, d⟩ x).1 = ⟨.ring (r.pushAll (x.sent d)), d⟩ := by
  cases x <;> simp [step, absorb, change, Sink.warn, Sink.receive, Sink.clear, Sink.reset,
    Step.sent, Ring.pushAll]

-- A step of a session whose sink is a record sends its warnings to the record; clearing empties it.
theorem step_record (rs : List Warning) (d : Decoder) (x : Step) :
    (Session.step ⟨.record rs, d⟩ x).1 =
      ⟨.record (if x.isClear then [] else rs ++ x.sent d), d⟩ := by
  cases x <;> simp [step, absorb, change, Sink.warn, Sink.receive, Sink.clear, Sink.reset,
    Step.sent, Step.isClear]

-- The run lemma of a ring sink, from its step lemma by induction on the run.
theorem after_ring (r : Ring) (d : Decoder) (xs : List Step) :
    Session.after ⟨.ring r, d⟩ xs = ⟨.ring (r.pushAll (sentAll d xs)), d⟩ := by
  induction xs generalizing r with
  | nil => rfl
  | cons x xs ih =>
    have hstep : Session.after ⟨.ring r, d⟩ (x :: xs) =
        Session.after (Session.step ⟨.ring r, d⟩ x).1 xs := rfl
    rw [hstep, step_ring, ih]
    simp [sentAll, Ring.pushAll, List.foldl_append]

-- The run lemma of a record sink, by induction from the end of the run: the last step that clears
-- empties the record, and every later step adds its warnings.
theorem after_record (d : Decoder) (xs : List Step) :
    Session.after ⟨.record [], d⟩ xs = ⟨.record (sentAll d (sinceClear xs)), d⟩ := by
  induction xs using List.reverseRecOn with
  | nil => rfl
  | append_singleton xs x ih =>
    rw [after_append_singleton, ih, step_record, sinceClear_append_singleton]
    cases x.isClear <;> simp [sentAll]

-- The warnings a decoding step sends are its warning trace.
theorem sent_decode (d : Decoder) (q : Text) (raw : Document) :
    (Step.decode q raw).sent d = Response.warningTrace d.resolution q raw := by
  simp [Step.sent, Response.decodeWithin, Response.warnings_decode]

-- An integer capacity from one up to the limit makes an empty ring of that capacity.
theorem build_ring {N : Nat} (hN : 1 ≤ N) (hlim : N ≤ Ring.capacityLimit) :
    SinkSpec.build (.ring (.int N)) = .ok (.ring (Ring.empty N (by omega))) := by
  simp only [SinkSpec.build, Int.toNat_natCast]
  rw [dif_pos (by omega), if_neg (by omega)]

end Session

-- A ring made for an integer capacity `N` from one up to `Ring.capacityLimit` holds, after any run
-- of steps, the last `N` warnings sent to it (all of them when fewer were sent), in the order they
-- arrived, and counts that many. A record holds every warning sent since it was last cleared, in
-- the order they arrived. The warnings that a run of decodings sends are their warning traces one
-- after another, so a sink shared by decodings keeps the last of those traces put together.
open Session in
theorem sinks_keep_warnings_in_arrival_order (N : Nat) (hN : 1 ≤ N)
    (hlim : N ≤ Ring.capacityLimit) (d : Decoder) (xs : List Step) :
    (∃ sink, SinkSpec.build (.ring (.int N)) = .ok sink ∧
      ((Session.after ⟨sink, d⟩ xs).step .read).2.reply =
        .ok (.records (Ring.keepLast N (sentAll d xs))) ∧
      ((Session.after ⟨sink, d⟩ xs).step .length).2.reply =
        .ok (.count (min N (sentAll d xs).length))) ∧
    (∃ sink, SinkSpec.build .record = .ok sink ∧
      ((Session.after ⟨sink, d⟩ xs).step .read).2.reply =
        .ok (.records (sentAll d (sinceClear xs))) ∧
      ((Session.after ⟨sink, d⟩ xs).step .length).2.reply =
        .ok (.count (sentAll d (sinceClear xs)).length)) ∧
    ∀ qs : List (Text × Document),
      sentAll d (qs.map fun p => .decode p.1 p.2) =
        qs.flatMap fun p => Response.warningTrace d.resolution p.1 p.2 := by
  refine ⟨⟨_, build_ring hN hlim, ?_⟩, ⟨_, rfl, ?_⟩, fun qs => ?_⟩
  · rw [after_ring]
    simp [step, Sink.read, Sink.length, Except.map, Ring.length_keepLast]
  · rw [after_record]
    simp [step, Sink.read, Sink.length, Except.map]
  · simp [sentAll, List.flatMap_map, sent_decode]

-- Warnings `a` and `b`, a clear, and `c`.
def Session.sampleWarnings : List Session.Step :=
  [.warn ⟨"a", "", ""⟩, .warn ⟨"b", "", ""⟩, .clear, .warn ⟨"c", "", ""⟩]

open Session in
-- A ring of two keeps `b` and `c` (a clear is refused by a ring); a record keeps `c` only.
theorem sinks_keep_warnings_in_arrival_order_of_two :
    (1 ≤ 2 ∧ 2 ≤ Ring.capacityLimit) ∧
    (∃ sink, SinkSpec.build (.ring (.int 2)) = .ok sink ∧
      ((Session.after ⟨sink, Decoder.standard⟩ sampleWarnings).step .read).2.reply =
        .ok (.records (Ring.keepLast 2 (sentAll Decoder.standard sampleWarnings))) ∧
      ((Session.after ⟨sink, Decoder.standard⟩ sampleWarnings).step .length).2.reply =
        .ok (.count (min 2 (sentAll Decoder.standard sampleWarnings).length))) ∧
    (∃ sink, SinkSpec.build .record = .ok sink ∧
      ((Session.after ⟨sink, Decoder.standard⟩ sampleWarnings).step .read).2.reply =
        .ok (.records (sentAll Decoder.standard (sinceClear sampleWarnings))) ∧
      ((Session.after ⟨sink, Decoder.standard⟩ sampleWarnings).step .length).2.reply =
        .ok (.count (sentAll Decoder.standard (sinceClear sampleWarnings)).length)) ∧
    ∀ qs : List (Text × Document),
      sentAll Decoder.standard (qs.map fun p => .decode p.1 p.2) =
        qs.flatMap fun p => Response.warningTrace Decoder.standard.resolution p.1 p.2 :=
  ⟨⟨by decide, by decide⟩, sinks_keep_warnings_in_arrival_order 2 (by decide) (by decide)
    Decoder.standard sampleWarnings⟩

-- A ring is not made for every capacity of one or more: an integer past `Ring.capacityLimit`, here
-- `2 ^ 63`, and a float, here `2.0`, are refused.
theorem ring_refuses_capacity_past_limit_or_float :
    SinkSpec.build (.ring (.int 9223372036854775808)) = .error .capacityOverflow ∧
      SinkSpec.build (.ring (.float 2.0)) = .error .capacityNotInteger := by
  constructor
  · rfl
  · rfl

end SeriesDecoding
