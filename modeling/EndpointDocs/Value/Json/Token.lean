import EndpointDocs.Value.Basic

/-!
# Tokens of JSON

A JSON text is cut into brackets, braces, commas, colons, quoted texts and words.  A word is a run
of other characters, such as `true` or `-1.5e3`; what it says is decided when it is read as a value.
Blanks between tokens are the space, the tabulator, the line feed and the carriage return.

## Escapes

In a quoted text a character may be given by four hexadecimal digits.  Characters beyond the first
65536 are given by two such numbers, a high and a low surrogate; one without the other is an error,
as is a control below 32 that is not escaped.
-/

namespace EndpointDocs
namespace Json

inductive Token where
  | leftBracket | rightBracket | leftBrace | rightBrace | comma | colon
  | text (t : Text)
  | word (t : Text)
deriving DecidableEq, Repr

/-- The token that one character is by itself. -/
def mark? (c : Char) : Option Token :=
  match c with
  | '[' => some .leftBracket
  | ']' => some .rightBracket
  | '\x7b' => some .leftBrace
  | '\x7d' => some .rightBrace
  | ',' => some .comma
  | ':' => some .colon
  | _ => none

/-- Whether a character separates tokens. -/
def isSpace (c : Char) : Bool :=
  c == ' ' || c == '\t' || c == '\n' || c == '\r'

/-- The character of a one-letter escape. -/
def letterEscape? (c : Char) : Option Char :=
  match c with
  | '"' => some '"'
  | '\\' => some '\\'
  | '/' => some '/'
  | 'b' => some '\x08'
  | 'f' => some '\x0C'
  | 'n' => some '\n'
  | 'r' => some '\r'
  | 't' => some '\t'
  | _ => none

/-- The number of four hexadecimal digits. -/
def unit? (a b c d : Char) : Option Nat :=
  Numeral.digits? 16 [a, b, c, d]

/-- Whether a number is the first half of a pair. -/
def isHigh (n : Nat) : Bool :=
  decide (0xD800 ≤ n) && decide (n < 0xDC00)

/-- Whether a number is the second half of a pair. -/
def isLow (n : Nat) : Bool :=
  decide (0xDC00 ≤ n) && decide (n < 0xE000)

/-- The character of a pair of halves. -/
def pairedChar (high low : Nat) : Char :=
  Char.ofNat (0x10000 + (high - 0xD800) * 0x400 + (low - 0xDC00))

/-- Where the next character of a JSON text stands: between tokens, or behind the characters of a
word or of a quoted text, last one first. -/
inductive Mode where
  | gap
  | word (read : Text)
  | text (read : Text)
deriving DecidableEq, Repr

/-- The token that has been read when a gap, a mark or a quote comes. -/
def Mode.pending : Mode → List Token
  | .word read => [.word read.reverse]
  | _ => []

/-- The mode behind one more character of a word. -/
def Mode.wordWith (c : Char) : Mode → Mode
  | .word read => .word (c :: read)
  | _ => .word [c]

/-- The tokens of the rest of a JSON text, from a mode on. -/
def tokensFrom : Mode → Text → Option (List Token)
  | .text _, [] => none
  | mode, [] => some mode.pending
  | .text read, '"' :: rest =>
      (tokensFrom .gap rest).map (.text read.reverse :: ·)
  | .text read, '\\' :: 'u' :: a :: b :: c :: d :: rest =>
      match unit? a b c d with
      | none => none
      | some n =>
          if isHigh n then
            match rest with
            | '\\' :: 'u' :: a' :: b' :: c' :: d' :: rest' =>
                match unit? a' b' c' d' with
                | none => none
                | some m =>
                    if isLow m then tokensFrom (.text (pairedChar n m :: read)) rest' else none
            | _ => none
          else if isLow n then none
          else tokensFrom (.text (Char.ofNat n :: read)) rest
  | .text read, '\\' :: c :: rest =>
      match letterEscape? c with
      | some e => tokensFrom (.text (e :: read)) rest
      | none => none
  | .text read, c :: rest =>
      if c.toNat < 0x20 ∨ c = '\\' then none else tokensFrom (.text (c :: read)) rest
  | mode, c :: rest =>
      if c = '"' then (tokensFrom (.text []) rest).map (mode.pending ++ ·)
      else if isSpace c then (tokensFrom .gap rest).map (mode.pending ++ ·)
      else
        match mark? c with
        | some token => (tokensFrom .gap rest).map (mode.pending ++ token :: ·)
        | none => tokensFrom (mode.wordWith c) rest

def tokens? (t : Text) : Option (List Token) :=
  tokensFrom .gap t

end Json
end EndpointDocs
