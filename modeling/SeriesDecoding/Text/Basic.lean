namespace SeriesDecoding

-- A sequence of Unicode code points, lone surrogates included. A response may carry a surrogate
-- with no partner (an escape such as `\ud800`) that must survive decoding and be written back, and
-- `String` cannot hold one, so every text of the library is a `Text`.
structure Text where
  points : List Nat
  deriving DecidableEq, Inhabited, Hashable

namespace Text

-- The text of a string's characters.
def ofString (s : String) : Text := ⟨s.toList.map Char.toNat⟩

instance : Coe String Text := ⟨ofString⟩

instance : Append Text := ⟨fun a b => ⟨a.points ++ b.points⟩⟩

instance : EmptyCollection Text := ⟨⟨[]⟩⟩

@[simp] theorem points_append (a b : Text) : (a ++ b).points = a.points ++ b.points := rfl

def length (t : Text) : Nat := t.points.length

def holds (t : Text) (c : Nat) : Bool := t.points.contains c

def startsWith (t p : Text) : Bool := p.points.isPrefixOf t.points

def drop (t : Text) (n : Nat) : Text := ⟨t.points.drop n⟩

-- The texts written one after another with `sep` between neighbours.
def join (sep : Text) : List Text → Text
  | [] => ⟨[]⟩
  | [t] => t
  | t :: rest => t ++ sep ++ join sep rest

-- Strict code-point lexicographic order on code-point lists: a proper beginning comes first.
def precedes : List Nat → List Nat → Bool
  | [], [] => false
  | [], _ :: _ => true
  | _ :: _, [] => false
  | a :: as, b :: bs => a < b || (a == b && precedes as bs)

-- The order label keys are sorted in.
def lt (a b : Text) : Bool := precedes a.points b.points

def le (a b : Text) : Bool := !lt b a

def ofNat (n : Nat) : Text := ofString (toString n)

def ofInt (n : Int) : Text := ofString (toString n)

-- The code point of a lowercase hexadecimal digit below sixteen.
def hexDigit (d : Nat) : Nat := if d < 10 then 48 + d else 87 + d

-- The lowest `width` hexadecimal digits of `n`, most significant first, lowercase.
def hex : Nat → Nat → List Nat
  | 0, _ => []
  | width + 1, n => hex width (n / 16) ++ [hexDigit (n % 16)]

-- The characters of an ASCII text as a string; the library writes such text on output.
def toAscii (t : Text) : String := String.ofList (t.points.map Char.ofNat)

end Text

end SeriesDecoding
