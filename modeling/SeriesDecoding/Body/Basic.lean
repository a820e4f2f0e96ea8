import SeriesDecoding.Body.Encoding
import SeriesDecoding.Document.Reader
import SeriesDecoding.Text.Quoted

namespace SeriesDecoding

-- A response body as received: a text, or bytes whose encoding is told from their first bytes.
inductive Body where
  | text (t : Text)
  | bytes (bs : List UInt8)

-- Why a body gives no document.
inductive BodyFault where
  -- Bytes that are not text in the encoding told from them.
  | undecodable
  -- Text that is not JSON.
  | malformed
  -- The JSON text goes past a limit of the reader.
  | exceeds (limit : ReadLimit)
  deriving DecidableEq

namespace Body

def isEmpty : Body → Bool
  | .text t => t.points.isEmpty
  | .bytes bs => bs.isEmpty

-- The quoted literal of the body, with a `b` before the quotes of bytes.
def literal : Body → Text
  | .text t => t.quoted
  | .bytes bs => Quoting.literal.bytes bs

-- The document the body's text denotes as JSON, read with room for `room` containers open at once.
def document (room : Nat) (b : Body) : Except BodyFault Document :=
  let text := match b with
    | .text t => some t
    | .bytes bs => Text.ofBytes? bs
  match text with
  | none => .error .undecodable
  | some t => match Document.read room t with
    | .ok d => .ok d
    | .error .malformed => .error .malformed
    | .error (.exceeds l) => .error (.exceeds l)

end Body

end SeriesDecoding
