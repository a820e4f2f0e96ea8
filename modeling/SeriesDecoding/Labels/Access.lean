import SeriesDecoding.Fault
import SeriesDecoding.Log

namespace SeriesDecoding.Labels

-- A label read as a text: refused when it is missing or its value is not a text.
def string (labels : List (Text × Document)) (field : Text) : Except Fault Text :=
  match Document.lookup labels field with
  | none => .error (.labelMissing field)
  | some (.str s) => .ok s
  | some _ => .error (.labelFormat field)

-- The text values of the labels named, keyed by name in order of first mention; the first label
-- refused refuses them all.
def strings (labels : List (Text × Document)) : List Text → Except Fault (List (Text × Text))
  | [] => .ok []
  | f :: fs => do
    let v ← string labels f
    let rest ← strings labels fs
    pure ((f, v) :: rest.filter (·.1 != f))

-- The logger of label reading.
def logger : Text := "promresults.core.metric"

-- The warning for a prefixed label whose value is not a text.
def skipped (pfx name : Text) : LogEntry :=
  ⟨logger, "Failed to parse label value for label: '" ++ name ++ "'", [("prefix", .str pfx)]⟩

-- The text values of the labels whose keys start with `pfx`, keyed by the rest of the key in their
-- order, and the warnings for those skipped because their value is not a text.
def prefixed (labels : List (Text × Document)) (pfx : Text) : List (Text × Text) × List LogEntry :=
  match labels with
  | [] => ([], [])
  | (k, v) :: rest =>
    let (kept, logs) := prefixed rest pfx
    if k.startsWith pfx then
      let name := k.drop pfx.length
      match v with
      | .str s => ((name, s) :: kept, logs)
      | _ => (kept, skipped pfx name :: logs)
    else (kept, logs)

-- A request to read labels.
inductive Query where
  | string (field : Text)
  | strings (fields : List Text)
  | prefixed (pfx : Text)

-- The request for the labels proper, whose keys start with `label_`.
def Query.labels : Query := .prefixed "label_"

-- The request for the annotations, whose keys start with `annotation_`.
def Query.annotations : Query := .prefixed "annotation_"

-- What a request to read labels gives: one text, or texts by name.
inductive Reading where
  | text (t : Text)
  | texts (entries : List (Text × Text))

-- The reading of a request, and the warnings logged on the way.
def read (labels : List (Text × Document)) : Query → Except Fault Reading × List LogEntry
  | .string f => ((string labels f).map .text, [])
  | .strings fs => ((strings labels fs).map .texts, [])
  | .prefixed p => let (kept, logs) := prefixed labels p; (.ok (.texts kept), logs)

end SeriesDecoding.Labels
