import SeriesDecoding.Text.Basic

namespace SeriesDecoding

-- A JSON value with unbounded integers, binary64 floats and objects in key order. Integers and
-- floats are kept apart: `1` and `1.0` are different documents.
inductive Document where
  | null
  | bool (b : Bool)
  | int (n : Int)
  | float (x : Float)
  | str (s : Text)
  | array (items : List Document)
  | object (entries : List (Text × Document))
  deriving Inhabited

namespace Document

-- The value of the first entry with key `k`.
def lookup (entries : List (Text × Document)) (k : Text) : Option Document :=
  match entries.find? (fun e => e.1 == k) with
  | some e => some e.2
  | none => none

-- The entries with `k` set to `v`: in the place of the key when it is there, else at the end.
def setField (entries : List (Text × Document)) (k : Text) (v : Document) :
    List (Text × Document) :=
  match entries with
  | [] => [(k, v)]
  | (k', v') :: rest => if k' == k then (k, v) :: rest else (k', v') :: setField rest k v

-- The entries of an object text in which keys may repeat, by `setField` in reading order: a
-- repeated key keeps its first place and the last value given to it.
def ofEntries (entries : List (Text × Document)) : List (Text × Document) :=
  entries.foldl (fun acc e => setField acc e.1 e.2) []

-- The value of field `k` of an object, or `none` for a missing field or a document that is not an
-- object.
def field? (d : Document) (k : Text) : Option Document :=
  match d with
  | .object entries => lookup entries k
  | _ => none

-- The name of the kind of a document, as the type names of the values it is read into.
def kindName : Document → String
  | .null => "NoneType"
  | .bool _ => "bool"
  | .int _ => "int"
  | .float _ => "float"
  | .str _ => "str"
  | .array _ => "list"
  | .object _ => "dict"

mutual

-- The number of levels of a document: one for a value that holds no other, and one more than the
-- highest of its items or entry values for an array or object.
def height : Document → Nat
  | .array items => heightItems items + 1
  | .object entries => heightEntries entries + 1
  | _ => 1

-- The greatest height of the documents, zero for none.
def heightItems : List Document → Nat
  | [] => 0
  | d :: rest => Nat.max d.height (heightItems rest)

-- The greatest height of the entry values, zero for none.
def heightEntries : List (Text × Document) → Nat
  | [] => 0
  | (_, v) :: rest => Nat.max v.height (heightEntries rest)

end

example : (Document.array [.array [], .object [("a", .array [.int 1])]]).height = 4 := by decide

end Document

end SeriesDecoding
