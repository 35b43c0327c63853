import EndpointDocs.Numeral.Decimal

/-!
# Texts over several lines in YAML

A text may run over several lines.  The blanks around a line break do not count; one line break is a
space, and of several the first does not count.  In double quotes a backslash begins an escape, and
one before a line break takes it away.
-/

namespace EndpointDocs
namespace Yaml

def isBreak (c : Char) : Bool :=
  c == '\n' || c == '\r'

/-- Whether a character is a blank within a line. -/
def isSpace (c : Char) : Bool :=
  c == ' ' || c == '\t'

/-- A part of a text over several lines: a character that may be a blank to drop, one that stands
for itself, a line break, or a line break that was taken away. -/
inductive Mark where
  | raw (c : Char)
  | fixed (c : Char)
  | lineBreak
  | joined
deriving DecidableEq, Repr

/-- A text that has been folded in part: the characters so far, last one first, blanks that may be
dropped, the number of line breaks since the last character, and whether a line has just begun. -/
structure Folded where
  read : Text := []
  blanks : Text := []
  breaks : Nat := 0
  fresh : Bool := false

namespace Folded

/-- What stands for line breaks. -/
def breakText : Nat → Text
  | 0 => []
  | 1 => [' ']
  | n + 1 => List.replicate n '\n'

/-- The characters with what stands between them and the next. -/
def flushed (f : Folded) : Text :=
  if f.breaks = 0 then f.blanks ++ f.read else breakText f.breaks ++ f.read

def step (f : Folded) : Mark → Folded
  | .raw c =>
      if isSpace c then if f.fresh then f else { f with blanks := c :: f.blanks }
      else { read := c :: f.flushed }
  | .fixed c => { read := c :: f.flushed }
  | .lineBreak => { f with blanks := [], breaks := f.breaks + 1, fresh := true }
  | .joined => { read := f.flushed, fresh := true }

end Folded

def fold (marks : List Mark) : Text :=
  (marks.foldl Folded.step {}).flushed.reverse

/-- The character of a one-letter escape. -/
def letterEscape? (c : Char) : Option Char :=
  match c with
  | '0' => some '\x00'
  | 'a' => some '\x07'
  | 'b' => some '\x08'
  | 't' => some '\t'
  | '\t' => some '\t'
  | 'n' => some '\n'
  | 'v' => some '\x0B'
  | 'f' => some '\x0C'
  | 'r' => some '\r'
  | 'e' => some '\x1B'
  | ' ' => some ' '
  | '"' => some '"'
  | '/' => some '/'
  | '\\' => some '\\'
  | 'N' => some (Char.ofNat 0x85)
  | '_' => some (Char.ofNat 0xA0)
  | 'L' => some (Char.ofNat 0x2028)
  | 'P' => some (Char.ofNat 0x2029)
  | _ => none

/-- The character of a number in hexadecimal digits. -/
def numberedChar? (digits : Text) : Option Char :=
  (Numeral.digits? 16 digits).bind fun n =>
    if n < 0xD800 ∨ (0xE000 ≤ n ∧ n < 0x110000) then some (Char.ofNat n) else none

def prepend (m : Mark) (r : Option (List Mark × Text)) : Option (List Mark × Text) :=
  r.map fun (ms, rest) => (m :: ms, rest)

/-- The parts of a text in double quotes, and what follows the closing quote. -/
def doubleQuoted : Text → Option (List Mark × Text)
  | [] => none
  | '"' :: rest => some ([], rest)
  | '\\' :: '\r' :: '\n' :: rest => prepend .joined (doubleQuoted rest)
  | '\\' :: '\n' :: rest => prepend .joined (doubleQuoted rest)
  | '\\' :: 'x' :: a :: b :: rest =>
      match numberedChar? [a, b] with
      | some c => prepend (.fixed c) (doubleQuoted rest)
      | none => none
  | '\\' :: 'u' :: a :: b :: c :: d :: rest =>
      match numberedChar? [a, b, c, d] with
      | some c => prepend (.fixed c) (doubleQuoted rest)
      | none => none
  | '\\' :: 'U' :: a :: b :: c :: d :: e :: f :: g :: h :: rest =>
      match numberedChar? [a, b, c, d, e, f, g, h] with
      | some c => prepend (.fixed c) (doubleQuoted rest)
      | none => none
  | '\\' :: c :: rest =>
      match letterEscape? c with
      | some e => prepend (.fixed e) (doubleQuoted rest)
      | none => none
  | '\r' :: '\n' :: rest => prepend .lineBreak (doubleQuoted rest)
  | c :: rest => prepend (if isBreak c then .lineBreak else .raw c) (doubleQuoted rest)

/-- The parts of a text in single quotes, and what follows the closing quote. -/
def singleQuoted : Text → Option (List Mark × Text)
  | [] => none
  | '\'' :: '\'' :: rest => prepend (.fixed '\'') (singleQuoted rest)
  | '\'' :: rest => some ([], rest)
  | '\r' :: '\n' :: rest => prepend .lineBreak (singleQuoted rest)
  | c :: rest => prepend (if isBreak c then .lineBreak else .raw c) (singleQuoted rest)

/-- A quoted text, from its opening quote on, and what follows the closing quote. -/
def quoted? : Text → Option (Text × Text)
  | '"' :: rest => (doubleQuoted rest).map fun (ms, rest) => (fold ms, rest)
  | '\'' :: rest => (singleQuoted rest).map fun (ms, rest) => (fold ms, rest)
  | _ => none

end Yaml
end EndpointDocs
