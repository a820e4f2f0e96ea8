import SeriesDecoding.Body.Basic
import SeriesDecoding.Document.Literal
import SeriesDecoding.Number

namespace SeriesDecoding

-- The first rule of the response shape that a document breaks, with the part that breaks it.
inductive Violation where
  -- The response is not an object, or has neither data nor an engine error.
  | unexpected (response : Document)
  | dataFormat (data : Document)
  | resultMissing (data : Document)
  | resultFormat (result : Document)
  | entryFormat (entry : Document)
  | metricMissing (entry : Document)
  | metricFormat (metric : Document)
  -- An entry has neither values nor a value.
  | valueMissing (entry : Document)
  | valuesFormat (values : Document)
  -- A data point is not a pair of a finite number and a text.
  | pointFormat (pair : Document)
  -- The value text of a data point is no numeral.
  | sampleValue (pair : Document) (text : Text)

-- Why a response yields no result set.
inductive DecodeFault where
  | noData
  -- The response carries the query engine's error message instead of data.
  | engine (message : Text) (response : Document)
  -- The body is not a JSON text, for the given cause.
  | body (body : Body) (cause : BodyFault)
  | shape (violation : Violation)

-- A setting refused when a decoder or a sink is made.
inductive Setting where
  | resolution
  | maxOccurrences
  | maxTracked
  | maxSize
  deriving DecidableEq

-- The kinds of failure that a producer may hand over in place of a result.
inductive Complaint where
  | value
  | runtime
  | type
  deriving DecidableEq

-- Why an operation gives no value.
inductive Fault where
  | decode (query : Text) (fault : DecodeFault)
  | arith (fault : ArithFault)
  | setting (setting : Setting)
  -- A ring capacity past the largest one, `2 ^ 63 - 1`.
  | capacityOverflow
  -- A ring capacity given as a float.
  | capacityNotInteger
  -- A sample value text that is no numeral.
  | numeral (text : Text)
  -- A JSON text that goes past a limit of the reader.
  | exceeds (limit : ReadLimit)
  -- A response nested too deeply for its literal to be written into a message.
  | literalTooDeep
  | labelMissing (field : Text)
  | labelFormat (field : Text)
  | alreadyPublished
  | alreadyCollected
  -- Nothing was published before the handoff was asked for its result.
  | notPublished
  -- A publication that is not a result set; the kind of document offered is given.
  | notResultSet (kind : String)
  -- A failure handed over by a producer.
  | complaint (kind : Complaint) (message : Text)
  -- A sink asked for an operation it does not have.
  | noOperation (holder : String) (operation : String)
  -- A sink asked for its length that has none.
  | noLength (holder : String)

-- What is shown of a fault: its kind, its message, the field it concerns when it is a decoding
-- fault, and the kind of the failure that caused it.
structure Report where
  kind : String
  message : Text
  field : Option (Option String)
  cause : Option String

namespace Violation

def kindName : Violation → String
  | .unexpected _ => "UnexpectedResponseError"
  | .dataFormat _ => "DataFieldFormatError"
  | .resultMissing _ => "ResultFieldMissingError"
  | .resultFormat _ => "ResultFieldFormatError"
  | .entryFormat _ => "ResultEntryFormatError"
  | .metricMissing _ => "MetricFieldMissingError"
  | .metricFormat _ => "MetricFieldFormatError"
  | .valueMissing _ => "ValueFieldMissingError"
  | .valuesFormat _ => "ValuesFieldFormatError"
  | .pointFormat _ => "DataPointFormatError"
  | .sampleValue _ _ => "SampleValueError"

def field : Violation → Option String
  | .unexpected _ => none
  | .dataFormat _ => some "data"
  | .resultMissing _ | .resultFormat _ | .entryFormat _ => some "result"
  | .metricMissing _ | .metricFormat _ => some "metric"
  | .valueMissing _ | .pointFormat _ | .sampleValue _ _ => some "value"
  | .valuesFormat _ => some "values"

-- How many calls below the decoding of a response a rule is checked: the rules of the response
-- itself at none, those of a result entry and the refusal of an object that carries neither data
-- nor an engine error at one, and those of a data point at two.
def level : Violation → Nat
  | .unexpected (.object _) => 1
  | .unexpected _ | .dataFormat _ | .resultMissing _ | .resultFormat _ | .entryFormat _ => 0
  | .metricMissing _ | .metricFormat _ | .valueMissing _ | .valuesFormat _ => 1
  | .pointFormat _ | .sampleValue _ _ => 2

-- The part of the response that breaks the rule.
def response : Violation → Document
  | .unexpected d | .dataFormat d | .resultMissing d | .resultFormat d | .entryFormat d
  | .metricMissing d | .metricFormat d | .valueMissing d | .valuesFormat d | .pointFormat d
  | .sampleValue d _ => d

end Violation

-- The message of a text that is no numeral.
def Fault.numeralMessage (t : Text) : Text := "could not convert string to float: " ++ t.quoted

namespace Violation

-- The sentence that says which rule is broken.
def detail : Violation → Text
  | .unexpected _ => "unexpected response"
  | .dataFormat _ => "'data' field improperly formatted"
  | .resultMissing _ => "'result' field does not exist"
  | .resultFormat _ => "'result' field improperly formatted"
  | .entryFormat _ => "'result' entry improperly formatted"
  | .metricMissing _ => "'metric' field does not exist in data result vector"
  | .metricFormat _ => "'metric' field improperly formatted"
  | .valueMissing _ => "'value' field does not exist in data result vector"
  | .valuesFormat _ => "'values' field improperly formatted"
  | .pointFormat _ => "improperly formatted datapoint"
  | .sampleValue _ t => "invalid sample value (" ++ Fault.numeralMessage t ++ ")"

end Violation

-- The message of a decoding fault that names the response part it concerns.
def DecodeFault.parsing (detail query response : Text) : Text :=
  "Error parsing Prometheus response: " ++ detail ++ ". Query: '" ++ query ++ "'. Response: '" ++
    response ++ "'"

-- The report of a decoding fault of a query.
def DecodeFault.report (query : Text) : DecodeFault → Report
  | .noData =>
    ⟨"NoDataError", "No data returned for query: '" ++ query ++ "'", some none, none⟩
  | .engine message _ =>
    ⟨"QueryEngineError", "'" ++ message ++ "' parsing query '" ++ query ++ "'", some none, none⟩
  | .body b cause =>
    ⟨"ResponseBodyError", parsing "response body is not valid JSON" query b.literal, some none,
      some (if cause = .undecodable then "UnicodeDecodeError" else "JSONDecodeError")⟩
  | .shape v =>
    ⟨v.kindName, parsing v.detail query v.response.literal, some v.field,
      match v with
      | .sampleValue _ _ => some "ValueError"
      | _ => none⟩

def Setting.message : Setting → Text
  | .resolution => "timestamp_resolution must be positive"
  | .maxOccurrences => "max_occurrences must be at least 1"
  | .maxTracked => "max_tracked must be at least 1"
  | .maxSize => "max_size must be at least 1"

def Complaint.kindName : Complaint → String
  | .value => "ValueError"
  | .runtime => "RuntimeError"
  | .type => "TypeError"

-- The report of a JSON text that goes past a limit of the reader.
def ReadLimit.report : ReadLimit → Report
  | .digits n =>
    ⟨"ValueError", "Exceeds the limit (4300 digits) for integer string conversion: value has " ++
      Text.ofNat n ++ " digits; use sys.set_int_max_str_digits() to increase the limit", none, none⟩
  | .depth c =>
    ⟨"RecursionError", "maximum recursion depth exceeded while decoding a JSON " ++ c.name ++
      " from a unicode string", none, none⟩

-- The fault as raised when the message of a violation checked at `level` may show documents up to
-- height `room`, and one level less for each call further below: a violation whose document is
-- higher than the room at its own level has no message, and writing one fails instead.
def Fault.withinAt (level room : Nat) : Fault → Fault
  | .decode q (.shape v) =>
    if room - (v.level - level) < v.response.height then .literalTooDeep else .decode q (.shape v)
  | f => f

-- The fault as raised when messages may show documents up to height `room` at the level of the
-- response.
def Fault.within (room : Nat) : Fault → Fault := Fault.withinAt 0 room

-- The kind, message, field and cause of a fault, which are all that is shown of it.
def Fault.report : Fault → Report
  | .decode query f => f.report query
  | .arith f => ⟨f.kindName, f.message, none, none⟩
  | .setting s => ⟨"ValueError", s.message, none, none⟩
  | .capacityOverflow =>
    ⟨"OverflowError", "Python int too large to convert to C ssize_t", none, none⟩
  | .capacityNotInteger => ⟨"TypeError", "an integer is required", none, none⟩
  | .numeral t => ⟨"ValueError", numeralMessage t, none, none⟩
  | .exceeds l => l.report
  | .literalTooDeep =>
    ⟨"RecursionError", "maximum recursion depth exceeded while getting the repr of an object", none,
      none⟩
  | .labelMissing f =>
    ⟨"FieldMissingError", "'" ++ f ++ "' field does not exist in data result vector", none, none⟩
  | .labelFormat f =>
    ⟨"FieldFormatError",
      "'" ++ f ++ "' field is improperly formatted and cannot be converted to string", none, none⟩
  | .alreadyPublished =>
    ⟨"AlreadyPublishedError", "result already published to this future", none, none⟩
  | .alreadyCollected =>
    ⟨"AlreadyConsumedError", "result already collected from this future", none, none⟩
  | .notPublished => ⟨"TimeoutError", "no result published before timeout", none, none⟩
  | .notResultSet kind =>
    ⟨"TypeError", "expected a ResultSet, got " ++ Text.ofString kind ++
      "; use set_exception() to publish a failure", none, none⟩
  | .complaint kind message => ⟨kind.kindName, message, none, none⟩
  | .noOperation holder operation =>
    ⟨"AttributeError", "'" ++ Text.ofString holder ++ "' object has no attribute '" ++
      Text.ofString operation ++ "'", none, none⟩
  | .noLength holder =>
    ⟨"TypeError", "object of type '" ++ Text.ofString holder ++ "' has no len()", none, none⟩

end SeriesDecoding
