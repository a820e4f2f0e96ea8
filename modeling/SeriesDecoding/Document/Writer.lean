import SeriesDecoding.Document.Basic
import SeriesDecoding.Decimal.Layout

namespace SeriesDecoding

namespace Document

-- The code points that stand for `c` inside a JSON string: outside printable ASCII a `\u` escape,
-- above the basic plane the escapes of its two surrogates; the quote, the backslash and the
-- controls that have a short escape are written with it.
def jsonEscape (c : Nat) : List Nat :=
  if c == 34 then [92, 34]
  else if c == 92 then [92, 92]
  else if c == 10 then [92, 110]
  else if c == 13 then [92, 114]
  else if c == 9 then [92, 116]
  else if c == 8 then [92, 98]
  else if c == 12 then [92, 102]
  else if 32 ≤ c && c < 127 then [c]
  else if c < 0x10000 then 92 :: 117 :: Text.hex 4 c
  else
    let v := c - 0x10000
    (92 :: 117 :: Text.hex 4 (0xd800 + v / 0x400)) ++ (92 :: 117 :: Text.hex 4 (0xdc00 + v % 0x400))

def jsonString (t : Text) : Text := ⟨34 :: t.points.flatMap jsonEscape ++ [34]⟩

mutual

-- A document as JSON text in ASCII: floats in `FloatLayout.json`, and arrays and objects with no
-- blanks between their parts.
def write : Document → Text
  | .null => "null"
  | .bool b => if b then "true" else "false"
  | .int n => Text.ofInt n
  | .float x => FloatLayout.json.write x
  | .str s => jsonString s
  | .array items => "[" ++ writeItems items ++ "]"
  | .object entries => "\x7b" ++ writeEntries entries ++ "\x7d"

-- The items as JSON text, separated by commas.
def writeItems : List Document → Text
  | [] => ⟨[]⟩
  | [d] => d.write
  | d :: rest => d.write ++ "," ++ writeItems rest

-- The entries as JSON keys and values, separated by commas.
def writeEntries : List (Text × Document) → Text
  | [] => ⟨[]⟩
  | [(k, v)] => jsonString k ++ ":" ++ v.write
  | (k, v) :: rest => jsonString k ++ ":" ++ v.write ++ "," ++ writeEntries rest

end

end Document

end SeriesDecoding
