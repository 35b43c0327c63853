import EndpointDocs.Numeral.Decimal

/-!
# Quoted texts in TOML

A text stands between double quotes, where a backslash begins an escape, or between single quotes,
where every character stands for itself.  Three quotes of a kind allow line feeds inside, and a line
feed directly behind them does not count.

Each reader here starts behind the opening quotes, and gives the text and what follows the closing
quotes.
-/

namespace EndpointDocs
namespace Toml

/-- Whether a character may not stand in a text: a control other than the tabulator. -/
def isControl (c : Char) : Bool :=
  (decide (c.toNat < 0x20) && c != '\t') || c.toNat == 0x7F

/-- The character of a one-letter escape. -/
def letterEscape? (c : Char) : Option Char :=
  match c with
  | '"' => some '"'
  | '\\' => some '\\'
  | 'b' => some '\x08'
  | 'f' => some '\x0C'
  | 'n' => some '\n'
  | 'r' => some '\r'
  | 't' => some '\t'
  | _ => none

/-- The character of a number in hexadecimal digits. -/
def numberedChar? (digits : Text) : Option Char :=
  (Numeral.digits? 16 digits).bind fun n =>
    if n < 0xD800 ∨ (0xE000 ≤ n ∧ n < 0x110000) then some (Char.ofNat n) else none

def prepend (c : Char) (r : Option (Text × Text)) : Option (Text × Text) :=
  r.map fun (t, rest) => (c :: t, rest)

/-- A text between double quotes, on one line. -/
def basic : Text → Option (Text × Text)
  | [] => none
  | '"' :: rest => some ([], rest)
  | '\\' :: 'u' :: a :: b :: c :: d :: rest =>
      match numberedChar? [a, b, c, d] with
      | some n => prepend n (basic rest)
      | none => none
  | '\\' :: 'U' :: a :: b :: c :: d :: e :: f :: g :: h :: rest =>
      match numberedChar? [a, b, c, d, e, f, g, h] with
      | some n => prepend n (basic rest)
      | none => none
  | '\\' :: c :: rest =>
      match letterEscape? c with
      | some e => prepend e (basic rest)
      | none => none
  | c :: rest => if isControl c then none else prepend c (basic rest)

/-- A text between single quotes, on one line. -/
def literal : Text → Option (Text × Text)
  | [] => none
  | '\'' :: rest => some ([], rest)
  | c :: rest => if isControl c then none else prepend c (literal rest)

/-- Whether a backslash before this text ends a line. -/
def endsLine (t : Text) : Bool :=
  match t.dropWhile fun c => c == ' ' || c == '\t' with
  | '\n' :: _ => true
  | '\r' :: '\n' :: _ => true
  | _ => false

/-- A text between three double quotes.  Behind a backslash that ends a line all blanks are
skipped. -/
def longBasic (skipping : Bool) : Text → Option (Text × Text)
  | [] => none
  | '"' :: '"' :: '"' :: '"' :: '"' :: rest => some (['"', '"'], rest)
  | '"' :: '"' :: '"' :: '"' :: rest => some (['"'], rest)
  | '"' :: '"' :: '"' :: rest => some ([], rest)
  | '\\' :: 'u' :: a :: b :: c :: d :: rest =>
      match numberedChar? [a, b, c, d] with
      | some n => prepend n (longBasic false rest)
      | none => none
  | '\\' :: 'U' :: a :: b :: c :: d :: e :: f :: g :: h :: rest =>
      match numberedChar? [a, b, c, d, e, f, g, h] with
      | some n => prepend n (longBasic false rest)
      | none => none
  | '\\' :: c :: rest =>
      if endsLine (c :: rest) then longBasic true rest
      else
        match letterEscape? c with
        | some e => prepend e (longBasic false rest)
        | none => none
  | '\r' :: '\n' :: rest =>
      if skipping then longBasic true rest else prepend '\n' (longBasic false rest)
  | c :: rest =>
      if skipping && (c == ' ' || c == '\t' || c == '\n') then longBasic true rest
      else if isControl c && c != '\n' then none
      else prepend c (longBasic false rest)

/-- A text between three single quotes. -/
def longLiteral : Text → Option (Text × Text)
  | [] => none
  | '\'' :: '\'' :: '\'' :: '\'' :: '\'' :: rest => some (['\'', '\''], rest)
  | '\'' :: '\'' :: '\'' :: '\'' :: rest => some (['\''], rest)
  | '\'' :: '\'' :: '\'' :: rest => some ([], rest)
  | '\r' :: '\n' :: rest => prepend '\n' (longLiteral rest)
  | c :: rest => if isControl c && c != '\n' then none else prepend c (longLiteral rest)

/-- A text without the line feed that begins it. -/
def withoutFirstBreak : Text → Text
  | '\n' :: rest => rest
  | '\r' :: '\n' :: rest => rest
  | t => t

/-- A quoted text of any kind, from its opening quotes on. -/
def quoted? : Text → Option (Text × Text)
  | '"' :: '"' :: '"' :: rest => longBasic false (withoutFirstBreak rest)
  | '\'' :: '\'' :: '\'' :: rest => longLiteral (withoutFirstBreak rest)
  | '"' :: rest => basic rest
  | '\'' :: rest => literal rest
  | _ => none

/-- A quoted text on one line, from its opening quote on. -/
def quotedKey? : Text → Option (Text × Text)
  | '"' :: rest => basic rest
  | '\'' :: rest => literal rest
  | _ => none

end Toml
end EndpointDocs
