import SeriesDecoding.Response

namespace SeriesDecoding.Request

-- The room of a response or a body decoded on its own. Reading a body and writing a document into
-- a fault's message draw on one budget of nesting, shared with the calls that lead to them: the
-- body may have this many arrays and objects open at once, and a message may show a document this
-- many levels high at the level of the response, one less for each call below it
-- (`Fault.withinAt`). Sessions and handoffs decode within rooms stated relative to it.
def room : Nat := 992

-- The result set of a response decoded on its own.
def decode (resolution : Number) (query : Text) (raw : Document) : Traced ResultSet :=
  Response.decodeWithin room resolution query raw

-- The result set of a response body decoded on its own.
def decodeBody (resolution : Number) (query : Text) (body : Option Body) : Traced ResultSet :=
  Response.decodeBodyWithin room resolution query body

-- The series of a result entry decoded on its own, whose rules are checked with one level more of
-- room than those of a response decoded on its own.
def decodeSeries (resolution : Number) (query : Text) (entry : List (Text × Document)) :
    Traced Series :=
  (Series.decode resolution query entry).mapFault (Fault.withinAt 1 (room + 1))

-- The sample of a data point read on its own, whose rules are checked with one level more of room
-- than those of a response decoded on its own.
def readSample (resolution : Number) (query : Text) (pair : Document) :
    Except Fault (Sample × Option Anomaly) :=
  (Sample.ofPair resolution query pair).mapError (Fault.withinAt 2 (room + 1))

end SeriesDecoding.Request
