import SeriesDecoding.Text.Printable

namespace SeriesDecoding

-- The decisions of a quoting notation: the quote and the other quote, and the controls written
-- by a letter. `Quoting.literal` is the one used throughout.
structure Quoting where
  -- The quote used unless the content holds it and not `other`.
  quote : Nat
  -- The quote used when the content holds `quote` and not this one.
  other : Nat
  -- The code points escaped by a letter, each with its letter.
  letters : List (Nat × Nat)

namespace Quoting

-- Single quotes first, double quotes second, and the letters `t`, `n` and `r`.
def literal : Quoting := ⟨39, 34, [(9, 116), (10, 110), (13, 114)]⟩

-- The quote for a content: `other` when it holds `quote` and not `other`.
def choose (q : Quoting) (content : List Nat) : Nat :=
  if content.contains q.quote && !content.contains q.other then q.other else q.quote

-- A backslash, an escape letter, and `width` lowercase hexadecimal digits of `c`.
def hexEscape (letter width c : Nat) : List Nat := 92 :: letter :: Text.hex width c

-- The code points that stand for `c` between the quotes `mark`.
def escape (q : Quoting) (mark c : Nat) : List Nat :=
  if c == mark || c == 92 then [92, c]
  else match q.letters.find? (fun e => e.1 == c) with
    | some e => [92, e.2]
    | none =>
      if Text.isPrintable c then [c]
      else if c < 0x100 then hexEscape 120 2 c
      else if c < 0x10000 then hexEscape 117 4 c
      else hexEscape 85 8 c

-- The code points that stand for the byte `b` between the quotes `mark`.
def escapeByte (q : Quoting) (mark b : Nat) : List Nat :=
  if b == mark || b == 92 then [92, b]
  else match q.letters.find? (fun e => e.1 == b) with
    | some e => [92, e.2]
    | none => if b < 0x20 || 0x7f ≤ b then hexEscape 120 2 b else [b]

-- A text between the chosen quotes, each code point escaped as `escape` says.
def text (q : Quoting) (t : Text) : Text :=
  let mark := q.choose t.points
  ⟨mark :: (t.points.flatMap (q.escape mark) ++ [mark])⟩

-- A byte string written as a text after a `b`, every byte outside printable ASCII as a two-digit
-- escape.
def bytes (q : Quoting) (bs : List UInt8) : Text :=
  let content := bs.map UInt8.toNat
  let mark := q.choose content
  ⟨98 :: mark :: (content.flatMap (q.escapeByte mark) ++ [mark])⟩

end Quoting

-- The quoted literal of a text, as it is shown inside messages.
def Text.quoted (t : Text) : Text := Quoting.literal.text t

example : (Text.quoted "it's").points = (Text.ofString "\"it's\"").points := by decide
example : (Text.quoted ⟨[0, 0x200b, 0xe9]⟩).points = (Text.ofString "'\\x00\\u200bé'").points := by
  decide +kernel

end SeriesDecoding
