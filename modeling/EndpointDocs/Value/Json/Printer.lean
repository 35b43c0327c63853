import EndpointDocs.Value.Basic

/-!
# Writing JSON

A list or table is written with one entry on a line, two spaces further in than the list or table
itself; one without entries is written on the spot.  Inside a text the quote, the backslash and the
controls below 32 are escaped, five of them by a letter, and every other character stands for
itself.
-/

namespace EndpointDocs
namespace Json

def escapedChar (c : Char) : Text :=
  match c with
  | '"' => ['\\', '"']
  | '\\' => ['\\', '\\']
  | '\x08' => ['\\', 'b']
  | '\x0C' => ['\\', 'f']
  | '\n' => ['\\', 'n']
  | '\r' => ['\\', 'r']
  | '\t' => ['\\', 't']
  | c =>
      if c.toNat < 0x20 then
        "\\u00".toList ++ [Nat.digitChar (c.toNat / 16), Nat.digitChar (c.toNat % 16)]
      else [c]

def quotedText (t : Text) : Text :=
  '"' :: (t.flatMap escapedChar ++ ['"'])

/-- The start of a line at some depth. -/
def newLine (depth : Nat) : Text :=
  '\n' :: List.replicate (2 * depth) ' '

/-- A number; what is not finite is written as null. -/
def numberText : Binary64 → Text
  | .finite negative m e => (Binary64.finite negative m e).text
  | _ => "null".toList

mutual

/-- A value inside so many lists and tables. -/
def render (depth : Nat) : Value → Text
  | .null => "null".toList
  | .bool b => if b then "true".toList else "false".toList
  | .integer n => Numeral.signedDecimal n
  | .float x => numberText x
  | .text t => quotedText t
  | .list [] => "[]".toList
  | .list (item :: items) =>
      '[' :: newLine (depth + 1) ++ render (depth + 1) item ++
        renderItems (depth + 1) items ++ newLine depth ++ [']']
  | .table [] => ['\x7b', '\x7d']
  | .table ((name, v) :: entries) =>
      '\x7b' :: newLine (depth + 1) ++ quotedText name ++ ": ".toList ++
        render (depth + 1) v ++ renderEntries (depth + 1) entries ++ newLine depth ++ ['\x7d']
termination_by structural v => v

/-- The later items of a list. -/
def renderItems (depth : Nat) : List Value → Text
  | [] => []
  | item :: items =>
      ',' :: newLine depth ++ render depth item ++ renderItems depth items
termination_by structural items => items

/-- The later entries of a table. -/
def renderEntries (depth : Nat) : List (Text × Value) → Text
  | [] => []
  | (name, v) :: entries =>
      ',' :: newLine depth ++ quotedText name ++ ": ".toList ++ render depth v ++
        renderEntries depth entries
termination_by structural entries => entries

end

end Json
end EndpointDocs
