import EndpointDocs.Text.Basic

/-!
# Text in bytes

Files hold bytes, and the places of comments in a source are counted in bytes, in the encoding
UTF-8: one to four bytes for a character.

## Decoding

The bytes of a file are cut into pieces: each is either the bytes of one character, or the longest
start of a character that the next byte does not continue.  A strict reading fails on a piece of the
second kind, a lenient one puts the replacement character in its place.

## Places

`slice? t start stop` is the text between two places.  There is none if a place lies inside a
character or behind the end, or if the second lies before the first.
-/

namespace EndpointDocs
namespace Text

abbrev Bytes := List UInt8

def encode (t : Text) : Bytes :=
  t.flatMap String.utf8EncodeChar

def byteLength : Text → Nat
  | [] => 0
  | c :: rest => c.utf8Size + byteLength rest

/-!
# Decoding
-/

/-- Whether a byte continues a character: `low` and `high` bound it. -/
private def continues (low high : UInt8) (b : UInt8) : Bool :=
  decide (low ≤ b) && decide (b ≤ high)

/-- The six bits that a later byte of a character holds. -/
private def tailBits (b : UInt8) : Nat :=
  b.toNat % 0x40

/-- The bounds of the second byte of a character of three bytes. -/
private def secondOfThree (b : UInt8) : UInt8 × UInt8 :=
  if b = 0xE0 then (0xA0, 0xBF) else if b = 0xED then (0x80, 0x9F) else (0x80, 0xBF)

/-- The bounds of the second byte of a character of four bytes. -/
private def secondOfFour (b : UInt8) : UInt8 × UInt8 :=
  if b = 0xF0 then (0x90, 0xBF) else if b = 0xF4 then (0x80, 0x8F) else (0x80, 0xBF)

/-- The first piece of `b :: rest`: its character, if it is one, and the number of its bytes in
`rest`. -/
def leadingPiece (b : UInt8) (rest : Bytes) : Option Char × Nat :=
  if b < 0x80 then (some (Char.ofNat b.toNat), 0)
  else if 0xC2 ≤ b ∧ b ≤ 0xDF then
    match rest with
    | c :: _ =>
        if continues 0x80 0xBF c then
          (some (Char.ofNat (b.toNat % 0x20 * 0x40 + tailBits c)), 1)
        else (none, 0)
    | [] => (none, 0)
  else if 0xE0 ≤ b ∧ b ≤ 0xEF then
    match rest with
    | c :: later =>
        if continues (secondOfThree b).1 (secondOfThree b).2 c then
          match later with
          | d :: _ =>
              if continues 0x80 0xBF d then
                (some (Char.ofNat
                  (b.toNat % 0x10 * 0x1000 + tailBits c * 0x40 + tailBits d)), 2)
              else (none, 1)
          | [] => (none, 1)
        else (none, 0)
    | [] => (none, 0)
  else if 0xF0 ≤ b ∧ b ≤ 0xF4 then
    match rest with
    | c :: later =>
        if continues (secondOfFour b).1 (secondOfFour b).2 c then
          match later with
          | d :: last =>
              if continues 0x80 0xBF d then
                match last with
                | e :: _ =>
                    if continues 0x80 0xBF e then
                      (some (Char.ofNat (b.toNat % 0x8 * 0x40000 + tailBits c * 0x1000 +
                        tailBits d * 0x40 + tailBits e)), 3)
                    else (none, 2)
                | [] => (none, 2)
              else (none, 1)
          | [] => (none, 1)
        else (none, 0)
    | [] => (none, 0)
  else (none, 0)

/-- The pieces of the bytes after the first `skipped`; a piece that is no character is `none`. -/
def pieces (skipped : Nat) : Bytes → List (Option Char)
  | [] => []
  | b :: rest =>
      match skipped with
      | n + 1 => pieces n rest
      | 0 => (leadingPiece b rest).1 :: pieces (leadingPiece b rest).2 rest

/-- The text that the bytes encode, if every piece is a character. -/
def decode? (bytes : Bytes) : Option Text :=
  (pieces 0 bytes).mapM id

/-- The text that the bytes encode, with the replacement character for pieces that are none. -/
def decodeLossy (bytes : Bytes) : Text :=
  (pieces 0 bytes).map fun piece => piece.getD (Char.ofNat 0xFFFD)

/-!
# Places
-/

/-- The text behind the first `n` bytes, unless they end inside a character or there are fewer. -/
def dropBytes? (n : Nat) : Text → Option Text
  | [] => if n = 0 then some [] else none
  | c :: rest =>
      if n = 0 then some (c :: rest)
      else if c.utf8Size ≤ n then dropBytes? (n - c.utf8Size) rest
      else none

/-- The text of the first `n` bytes, unless they end inside a character or there are fewer. -/
def takeBytes? (n : Nat) : Text → Option Text
  | [] => if n = 0 then some [] else none
  | c :: rest =>
      if n = 0 then some []
      else if c.utf8Size ≤ n then (takeBytes? (n - c.utf8Size) rest).map (c :: ·)
      else none

/-- The text between two places, unless one cuts a character, lies behind the end, or they are in
the wrong order. -/
def slice? (t : Text) (start stop : Nat) : Option Text :=
  if start ≤ stop then (dropBytes? start t).bind (takeBytes? (stop - start)) else none

end Text
end EndpointDocs
