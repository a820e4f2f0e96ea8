import SeriesDecoding.Request

namespace SeriesDecoding

-- The state of a one-shot handoff of a decoding's outcome from a producer to a consumer: waiting
-- for its one outcome, holding it, or collected, when it keeps nothing of the outcome. The
-- thread-blocking flavour is this slot alone, and its consumer waits until the slot is not waiting.
inductive Handoff where
  | waiting
  | ready (outcome : Except Fault ResultSet)
  | collected
  deriving Inhabited

namespace Handoff

def isDone : Handoff → Bool
  | .waiting => false
  | _ => true

-- The handoff holding `outcome`, if nothing was published before.
def publish (h : Handoff) (outcome : Except Fault ResultSet) : Except Fault Handoff :=
  match h with
  | .waiting => .ok (.ready outcome)
  | _ => .error .alreadyPublished

-- What a producer offers as its result.
inductive Offer where
  | resultSet (rs : ResultSet)
  | document (d : Document)

-- The handoff holding an offered result set; any other offer is refused first.
def offer (h : Handoff) : Offer → Except Fault Handoff
  | .resultSet rs => h.publish (.ok rs)
  | .document d => .error (.notResultSet d.kindName)

-- The published series or fault, and the handoff after collecting. Asking before anything is
-- published is refused without collecting, and asking again after collecting is refused.
def collect : Handoff → Except Fault (List Series) × Handoff
  | .waiting => (.error .notPublished, .waiting)
  | .ready outcome => (outcome.map (·.series), .collected)
  | .collected => (.error .alreadyCollected, .collected)

-- The room of a response that a step decodes: it is decoded one call deeper than a response
-- decoded on its own.
def decodeRoom : Nat := Request.room - 1

-- The handoff holding the outcome of decoding `raw`, whichever fault it ends in, with the warnings
-- the decoding sent to the decoder's sink.
def publishDecoded (h : Handoff) (d : Decoder) (query : Text) (raw : Document) : Traced Handoff :=
  let decoded := Response.decodeWithin decodeRoom d.resolution query raw
  ⟨decoded.warnings, h.publish decoded.outcome⟩

inductive Step where
  -- Decode a response with the decoder of a resolution, and publish its result set.
  | setResult (query : Text) (raw : Document) (resolution : Number)
  | offer (value : Document)
  | complain (kind : Complaint) (message : Text)
  -- Decode a response with the decoder of a resolution, and publish its outcome.
  | publishDecoded (query : Text) (raw : Document) (resolution : Number)
  | done
  | result

-- What a step gives back when it succeeds.
inductive Reply where
  | done
  | published (b : Bool)
  | series (ss : List Series)

-- The handoff after a successful change, with the reply `done`, or unchanged with the fault.
def settle (h : Handoff) : Except Fault Handoff → Handoff × Except Fault Reply
  | .ok h' => (h', .ok .done)
  | .error e => (h, .error e)

-- The handoff after a step, and the step's reply or fault.
def step (h : Handoff) : Step → Handoff × Except Fault Reply
  | .setResult q raw r =>
    match Decoder.make r with
    | .error e => (h, .error e)
    | .ok d =>
      match (Response.decodeWithin decodeRoom d.resolution q raw).outcome with
      | .error e => (h, .error e)
      | .ok rs => h.settle (h.offer (.resultSet rs))
  | .offer v => h.settle (h.offer (.document v))
  | .complain kind message => h.settle (h.publish (.error (.complaint kind message)))
  | .publishDecoded q raw r =>
    match Decoder.make r with
    | .error e => (h, .error e)
    | .ok d => h.settle (h.publishDecoded d q raw).outcome
  | .done => (h, .ok (.published h.isDone))
  | .result => let (r, h') := h.collect; (h', r.map .series)

def run (h : Handoff) : List Step → List (Except Fault Reply)
  | [] => []
  | x :: xs => let (h', r) := h.step x; r :: h'.run xs

end Handoff

-- The asyncio flavour of the handoff: the slot, and the event that wakes its consumer.
structure AsyncHandoff where
  slot : Handoff
  event : Bool

namespace AsyncHandoff

def fresh : AsyncHandoff := ⟨.waiting, false⟩

-- The published series or fault, and the handoff after collecting: refused once collected; then
-- the consumer waits on the event, and collects from the slot only when the event is set.
def collect (a : AsyncHandoff) : Except Fault (List Series) × AsyncHandoff :=
  match a.slot with
  | .collected => (.error .alreadyCollected, a)
  | slot =>
    if a.event then
      let (r, s) := slot.collect
      (r, { a with slot := s })
    else (.error .notPublished, a)

-- The handoff after a step, and the step's reply or fault. Every step but collecting acts on the
-- slot as in the thread-blocking flavour, and a publication that takes effect sets the event.
def step (a : AsyncHandoff) : Handoff.Step → AsyncHandoff × Except Fault Handoff.Reply
  | .result => let (r, a') := a.collect; (a', r.map .series)
  | x =>
    let (slot, r) := a.slot.step x
    (⟨slot, a.event || r matches .ok .done⟩, r)

def run (a : AsyncHandoff) : List Handoff.Step → List (Except Fault Handoff.Reply)
  | [] => []
  | x :: xs => let (a', r) := a.step x; r :: a'.run xs

end AsyncHandoff

end SeriesDecoding
