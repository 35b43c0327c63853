import EndpointDocs.Text.Hidden

/-!
# Quoted text

Messages show a text between double quotes, on one line and without characters that do not show.
A quote and a backslash follow a backslash, four controls have a letter of their own, and every
other hidden character is given by its number in hexadecimal digits between braces.
-/

namespace EndpointDocs
namespace Text

def quotedChar (c : Char) : Text :=
  match c with
  | '"' => ['\\', '"']
  | '\\' => ['\\', '\\']
  | '\t' => ['\\', 't']
  | '\n' => ['\\', 'n']
  | '\r' => ['\\', 'r']
  | '\x00' => ['\\', '0']
  | c =>
      if isHidden c then "\\u\x7b".toList ++ Nat.toDigits 16 c.toNat ++ ['\x7d'] else [c]

/-- A text between double quotes, on one line. -/
def quoted (t : Text) : Text :=
  '"' :: t.flatMap quotedChar ++ ['"']

end Text
end EndpointDocs
