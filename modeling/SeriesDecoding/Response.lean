import SeriesDecoding.Series.Decode

namespace SeriesDecoding

-- A resolution of the timestamp grid that is not zero or less; a NaN resolution is not refused.
structure Decoder where
  resolution : Number
  accepted : resolution.atMostZero = false

namespace Decoder

-- The decoder of a resolution, refused when the resolution is zero or less.
def make (resolution : Number) : Except Fault Decoder :=
  if h : resolution.atMostZero = false then .ok ⟨resolution, h⟩
  else .error (.setting .resolution)

-- The decoder with the grid of ten.
def standard : Decoder := ⟨.int 10, rfl⟩

end Decoder

namespace Response

-- The series of result entries in order, on the grid of `resolution`.
def decodeEntries (resolution : Number) (query : Text) : List Document → Traced (List Series)
  | [] => .ok []
  | .object entry :: rest =>
    (Series.decode resolution query entry).bind fun s =>
      (decodeEntries resolution query rest).map (s :: ·)
  | other :: _ => .fail (.decode query (.shape (.entryFormat other)))

-- The result set of a response document, on the grid of `resolution`. The checks run from the
-- outside in, and the first that fails is reported: a response that is not an object; no data,
-- where an error text in its place is the query engine's message; data that is not an object; no
-- result, or one that is not an array; then each entry in order, decoded in full before the next.
def decode (resolution : Number) (query : Text) (raw : Document) : Traced ResultSet :=
  let refuse (f : DecodeFault) : Traced ResultSet := .fail (.decode query f)
  match raw with
  | .null => refuse .noData
  | .object document =>
    match Document.lookup document "data" with
    | none =>
      match Document.lookup document "error" with
      | some (.str message) => refuse (.engine message raw)
      | _ => refuse (.shape (.unexpected raw))
    | some (.object data) =>
      match Document.lookup data "result" with
      | none => refuse (.shape (.resultMissing (.object data)))
      | some (.array entries) => (decodeEntries resolution query entries).map (⟨query, ·⟩)
      | some other => refuse (.shape (.resultFormat other))
    | some other => refuse (.shape (.dataFormat other))
  | other => refuse (.shape (.unexpected other))

-- The result set of a response decoded with room `room`: a document that a fault's message shows is
-- at most `room` high at the level of the response (`Fault.within`).
def decodeWithin (room : Nat) (resolution : Number) (query : Text) (raw : Document) :
    Traced ResultSet :=
  (decode resolution query raw).mapFault (Fault.within room)

-- The result set of a response body decoded with room `room`: the body is read with room for `room`
-- containers open at once and its document decoded with the same room. No body, an empty body, or
-- one whose document is null has no data, and a body that is not JSON text is refused with its
-- cause.
def decodeBodyWithin (room : Nat) (resolution : Number) (query : Text) :
    Option Body → Traced ResultSet
  | none => .fail (.decode query .noData)
  | some body =>
    if body.isEmpty then .fail (.decode query .noData)
    else
    match body.document room with
    | .error (.exceeds l) => .fail (.exceeds l)
    | .error cause => .fail (.decode query (.body body cause))
    | .ok .null => .fail (.decode query .noData)
    | .ok d => decodeWithin room resolution query d

end Response

end SeriesDecoding
