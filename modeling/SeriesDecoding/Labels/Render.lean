import SeriesDecoding.Document.Literal

namespace SeriesDecoding.Labels

-- The entries sorted by key in code-point order, entries with equal keys in their order.
def sorted (labels : List (Text × Document)) : List (Text × Document) :=
  labels.mergeSort fun a b => a.1.le b.1

-- The text of a label object that identifies a series inside a warning: `key: value` entries
-- between braces, keys bare and in code-point order, each value shown bare.
def render (labels : List (Text × Document)) : Text :=
  "\x7b" ++ Text.join ", " ((sorted labels).map fun e => e.1 ++ ": " ++ e.2.display) ++ "\x7d"

end SeriesDecoding.Labels
