import SeriesDecoding.Request
import SeriesDecoding.Sink.Basic

namespace SeriesDecoding

-- A sink and a decoder whose warnings go to it.
structure Session where
  sink : Sink
  decoder : Decoder

namespace Session

-- What a step does: decode a response or a body, send a warning to the sink directly, or ask the
-- sink for what it keeps. A decoding that fails part way leaves in the sink the warnings sent
-- before the fault.
inductive Step where
  | decode (query : Text) (raw : Document)
  | decodeBody (query : Text) (body : Option Body)
  | warn (warning : Warning)
  | read
  | length
  | clear
  | occurrences (warning : Warning)
  | tracked
  | reset

-- What a step gives back when it succeeds.
inductive Reply where
  | result (rs : ResultSet)
  | done
  | records (ws : List Warning)
  | count (n : Nat)

-- The reply or fault of a step, and the entries logged during it.
structure Answer where
  reply : Except Fault Reply
  logs : List LogEntry

-- The room of a body that a step decodes: one less than that of a body decoded on its own, as a
-- step decodes it one call deeper.
def bodyRoom : Nat := Request.room - 1

-- The session made with the sink of `spec`, then the decoder of `resolution`; either may be
-- refused.
def start (spec : SinkSpec) (resolution : Number) : Except Fault Session := do
  let sink ← spec.build
  let decoder ← Decoder.make resolution
  pure ⟨sink, decoder⟩

-- The session after decoding, with the warnings received by its sink, and the answer.
def absorb (s : Session) (t : Traced ResultSet) : Session × Answer :=
  let (sink, logs) := s.sink.receiveAll t.warnings
  ({ s with sink }, ⟨t.outcome.map .result, logs⟩)

-- The session after an operation on its sink that changes it.
def change (s : Session) (r : Except Fault Sink) : Session × Answer :=
  match r with
  | .ok sink => ({ s with sink }, ⟨.ok .done, []⟩)
  | .error e => (s, ⟨.error e, []⟩)

-- The session after a step, and the step's answer.
def step (s : Session) : Step → Session × Answer
  | .decode q raw => s.absorb (Response.decodeWithin Request.room s.decoder.resolution q raw)
  | .decodeBody q body => s.absorb (Response.decodeBodyWithin bodyRoom s.decoder.resolution q body)
  | .warn w =>
    match s.sink.warn w with
    | .ok (sink, logs) => ({ s with sink }, ⟨.ok .done, logs⟩)
    | .error e => (s, ⟨.error e, []⟩)
  | .read => (s, ⟨s.sink.read.map .records, []⟩)
  | .length => (s, ⟨s.sink.length.map .count, []⟩)
  | .clear => s.change s.sink.clear
  | .occurrences w => (s, ⟨(s.sink.occurrences w).map .count, []⟩)
  | .tracked => (s, ⟨s.sink.tracked.map .count, []⟩)
  | .reset => s.change s.sink.reset

def run (s : Session) : List Step → List Answer
  | [] => []
  | x :: xs => let (s', a) := s.step x; a :: s'.run xs

end Session

end SeriesDecoding
