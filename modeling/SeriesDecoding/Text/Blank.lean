import SeriesDecoding.Text.Basic

namespace SeriesDecoding.Text

-- Whether a code point is blank: the whitespace controls `\t` to `\r`, the separators `\x1c` to
-- `\x1f`, space, next line, no-break space, ogham space mark, the spaces of the general punctuation
-- block, the line and paragraph separators, the narrow no-break and medium mathematical spaces, and
-- the ideographic space.
def isBlank (c : Nat) : Bool :=
  (9 ≤ c && c ≤ 13) || (28 ≤ c && c ≤ 32) || c == 0x85 || c == 0xa0 || c == 0x1680 ||
    (0x2000 ≤ c && c ≤ 0x200a) || c == 0x2028 || c == 0x2029 || c == 0x202f || c == 0x205f ||
    c == 0x3000

-- The text without its leading and trailing blank code points, as a numeral is checked for
-- surrounding blanks.
def trim (t : Text) : Text :=
  ⟨((t.points.dropWhile isBlank).reverse.dropWhile isBlank).reverse⟩

example : isBlank 0x20 = true ∧ isBlank 0x1f = true ∧ isBlank 0x200b = false := by decide

end SeriesDecoding.Text
