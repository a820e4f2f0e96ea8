import SeriesDecoding.Text.Basic

namespace SeriesDecoding

-- The encodings a body may be decoded with.
inductive Encoding where
  -- UTF-8, dropping a byte order mark at the front.
  | utf8
  -- UTF-16 in the byte order given by the mark at the front, which is dropped.
  | utf16Marked
  -- UTF-16 with the most significant byte first when `bigEndian`.
  | utf16 (bigEndian : Bool)
  -- UTF-32 in the byte order given by the mark at the front, which is dropped.
  | utf32Marked
  -- UTF-32 with the most significant byte first when `bigEndian`.
  | utf32 (bigEndian : Bool)
  deriving DecidableEq

namespace Encoding

-- The encoding a body of bytes is in, told from its first bytes: a byte order mark names UTF-32,
-- UTF-16 or UTF-8 (the UTF-32 marks first, as the UTF-16 ones begin them); else the zero bytes
-- among the first four, or the first two of a two-byte body, tell the width and byte order of the
-- units; anything else is UTF-8.
def detect (bs : List Nat) : Encoding :=
  match bs with
  | 0xff :: 0xfe :: 0 :: 0 :: _ | 0 :: 0 :: 0xfe :: 0xff :: _ => .utf32Marked
  | 0xff :: 0xfe :: _ | 0xfe :: 0xff :: _ => .utf16Marked
  | 0xef :: 0xbb :: 0xbf :: _ => .utf8
  | b0 :: b1 :: b2 :: b3 :: _ =>
    if b0 = 0 then (if b1 ≠ 0 then .utf16 true else .utf32 true)
    else if b1 = 0 then (if b2 ≠ 0 || b3 ≠ 0 then .utf16 false else .utf32 false)
    else .utf8
  | [b0, b1] =>
    if b0 = 0 then .utf16 true
    else if b1 = 0 then .utf16 false
    else .utf8
  | _ => .utf8

-- Whether a byte continues a UTF-8 sequence.
def isTrail (b : Nat) : Bool := 0x80 ≤ b && b < 0xc0

-- The code points of UTF-8 bytes, the three-byte forms of surrogates included.
def decodeUtf8 : List Nat → Option (List Nat)
  | [] => some []
  | b :: rest =>
    if b < 0x80 then (decodeUtf8 rest).map (b :: ·)
    else if 0xc2 ≤ b && b < 0xe0 then
      match rest with
      | c :: rest' =>
        if isTrail c then (decodeUtf8 rest').map (((b - 0xc0) * 64 + (c - 0x80)) :: ·) else none
      | [] => none
    else if 0xe0 ≤ b && b < 0xf0 then
      match rest with
      | c :: d :: rest' =>
        let u := (b - 0xe0) * 4096 + (c - 0x80) * 64 + (d - 0x80)
        if isTrail c && isTrail d && 0x800 ≤ u then (decodeUtf8 rest').map (u :: ·) else none
      | _ => none
    else if 0xf0 ≤ b && b < 0xf5 then
      match rest with
      | c :: d :: e :: rest' =>
        let u := (b - 0xf0) * 262144 + (c - 0x80) * 4096 + (d - 0x80) * 64 + (e - 0x80)
        if isTrail c && isTrail d && isTrail e && 0x10000 ≤ u && u < 0x110000 then
          (decodeUtf8 rest').map (u :: ·)
        else none
      | _ => none
    else none

-- The units of two bytes each, in the given byte order; `none` for an odd byte at the end.
def units16 (bigEndian : Bool) : List Nat → Option (List Nat)
  | [] => some []
  | [_] => none
  | a :: b :: rest =>
    (units16 bigEndian rest).map ((if bigEndian then a * 256 + b else b * 256 + a) :: ·)

-- The code points of UTF-16 units: a high surrogate followed by a low one is one code point, and
-- every other surrogate stands alone.
def joinSurrogates : List Nat → List Nat
  | [] => []
  | u :: rest@(v :: rest') =>
    if 0xd800 ≤ u && u < 0xdc00 && 0xdc00 ≤ v && v < 0xe000 then
      (0x10000 + (u - 0xd800) * 0x400 + (v - 0xdc00)) :: joinSurrogates rest'
    else u :: joinSurrogates rest
  | [u] => [u]

-- The units of four bytes each, in the given byte order; `none` when a truncated unit ends the
-- bytes or a unit is beyond the last code point.
def units32 (bigEndian : Bool) : List Nat → Option (List Nat)
  | [] => some []
  | a :: b :: c :: d :: rest =>
    let u := if bigEndian then ((a * 256 + b) * 256 + c) * 256 + d
      else ((d * 256 + c) * 256 + b) * 256 + a
    if u < 0x110000 then (units32 bigEndian rest).map (u :: ·) else none
  | _ => none

-- The code points that bytes stand for in an encoding, or `none` when they are not text in it:
-- truncated data, overlong or out-of-range UTF-8, and UTF-32 units past the last code point.
-- Surrogates pass, each as a lone code point.
def decode : Encoding → List Nat → Option (List Nat)
  | .utf8, bs => match bs with
    | 0xef :: 0xbb :: 0xbf :: rest => decodeUtf8 rest
    | _ => decodeUtf8 bs
  | .utf16Marked, bs => match bs with
    | 0xfe :: 0xff :: rest => (units16 true rest).map joinSurrogates
    | 0xff :: 0xfe :: rest => (units16 false rest).map joinSurrogates
    | _ => (units16 false bs).map joinSurrogates
  | .utf16 bigEndian, bs => (units16 bigEndian bs).map joinSurrogates
  | .utf32Marked, bs => match bs with
    | 0 :: 0 :: 0xfe :: 0xff :: rest => units32 true rest
    | 0xff :: 0xfe :: 0 :: 0 :: rest => units32 false rest
    | _ => units32 false bs
  | .utf32 bigEndian, bs => units32 bigEndian bs

end Encoding

-- The text that a body of bytes stands for in the encoding told from its first bytes.
def Text.ofBytes? (bs : List UInt8) : Option Text :=
  let ns := bs.map UInt8.toNat
  ((Encoding.detect ns).decode ns).map Text.mk

end SeriesDecoding
