import SeriesDecoding.Sample
import SeriesDecoding.Labels.Render

namespace SeriesDecoding.Series

-- The samples of data points in order, each anomaly not in `reported` warned when first found.
def decodePairs (resolution : Number) (query labels : Text) (reported : List Anomaly) :
    List Document → Traced (List Sample)
  | [] => .ok []
  | p :: ps =>
    match Sample.ofPair resolution query p with
    | .error e => .fail e
    | .ok (s, some a) =>
      if a ∈ reported then (decodePairs resolution query labels reported ps).map (s :: ·)
      else
        ((decodePairs resolution query labels (a :: reported) ps).map (s :: ·)).after
          [⟨a.message, query, labels⟩]
    | .ok (s, none) => (decodePairs resolution query labels reported ps).map (s :: ·)

-- The data points of a result entry: its values when present, which must be an array, else its one
-- value; an entry with neither is refused.
def points (entry : List (Text × Document)) : Except Violation (List Document) :=
  match Document.lookup entry "values" with
  | some (.array ps) => .ok ps
  | some other => .error (.valuesFormat other)
  | none =>
    match Document.lookup entry "value" with
    | some v => .ok [v]
    | none => .error (.valueMissing (.object entry))

-- The series of a result entry, on the grid of `resolution`. The entry must have a metric that is
-- an object, the labels of the series; its points are read in order, and the first refused point
-- ends the decoding. Each kind of anomaly is warned once per series, when it is first found.
def decode (resolution : Number) (query : Text) (entry : List (Text × Document)) : Traced Series :=
  match Document.lookup entry "metric" with
  | none => .fail (.decode query (.shape (.metricMissing (.object entry))))
  | some (.object metric) =>
    match points entry with
    | .error v => .fail (.decode query (.shape v))
    | .ok ps => (decodePairs resolution query (Labels.render metric) [] ps).map (⟨metric, ·⟩)
  | some other => .fail (.decode query (.shape (.metricFormat other)))

end SeriesDecoding.Series
