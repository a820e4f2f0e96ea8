import SeriesDecoding.Document.Basic
import SeriesDecoding.Decimal.Layout
import SeriesDecoding.Text.Quoted

namespace SeriesDecoding

namespace Document

mutual

-- The literal of a document as shown inside messages: `None`, `True` and `False`, an integer's
-- decimal, a float in `FloatLayout.literal`, a quoted text, and arrays and objects between brackets
-- and braces.
def literal : Document → Text
  | .null => "None"
  | .bool b => if b then "True" else "False"
  | .int n => Text.ofInt n
  | .float x => FloatLayout.literal.write x
  | .str s => s.quoted
  | .array items => "[" ++ literalItems items ++ "]"
  | .object entries => "\x7b" ++ literalEntries entries ++ "\x7d"

-- The literal texts of the items, separated by a comma and a space.
def literalItems : List Document → Text
  | [] => ⟨[]⟩
  | [d] => d.literal
  | d :: rest => d.literal ++ ", " ++ literalItems rest

-- The entries as quoted key, colon, space and literal value, separated by a comma and a space.
def literalEntries : List (Text × Document) → Text
  | [] => ⟨[]⟩
  | [(k, v)] => k.quoted ++ ": " ++ v.literal
  | (k, v) :: rest => k.quoted ++ ": " ++ v.literal ++ ", " ++ literalEntries rest

end

-- The text of a document shown bare: a text as itself, every other document as its literal.
def display : Document → Text
  | .str s => s
  | d => d.literal

end Document

end SeriesDecoding
