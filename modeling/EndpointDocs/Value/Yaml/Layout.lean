import EndpointDocs.Value.Yaml.Folding

/-!
# Lines and columns in YAML

The nesting of blocks follows from the columns at which their lines begin.  Blank lines and comments
do not count; a comment begins with a number sign that has a blank or the start of a line before it.

## Documents

A file may hold several documents.  A line of three hyphens begins one and a line of three dots ends
one.  Lines without either are a document if there is anything on them.  Before a document there may
be lines that begin with a percent sign, which are passed over.
-/

namespace EndpointDocs
namespace Yaml

/-- A text in which a line feed alone ends every line. -/
def normalBreaks : Text → Text
  | [] => []
  | '\r' :: '\n' :: rest => '\n' :: normalBreaks rest
  | '\r' :: rest => '\n' :: normalBreaks rest
  | c :: rest => c :: normalBreaks rest

/-- The column of the next character that counts, and the text from it on.  `comment` tells whether
the text begins inside a comment, and `column` is the column at which it begins. -/
def nextContent (comment : Bool) (column : Nat) : Text → Nat × Text
  | [] => (0, [])
  | c :: rest =>
      if c = '\n' then nextContent false 0 rest
      else if comment then nextContent true column rest
      else if c = ' ' then nextContent false (column + 1) rest
      else if c = '#' then nextContent true column rest
      else (column, c :: rest)

/-- The rest of a text from the end of the line on, if only blanks and a comment come before. -/
def lineEnd? (t : Text) : Option Text :=
  match t.dropWhile isSpace with
  | [] => some []
  | '\n' :: rest => some ('\n' :: rest)
  | '#' :: rest =>
      match t with
      | '#' :: _ => none
      | _ => some (rest.dropWhile (· != '\n'))
  | _ => none

/-- Whether a text begins with a blank, ends a line, or is empty. -/
def beginsBlank : Text → Bool
  | [] => true
  | c :: _ => isSpace c || c == '\n'

/-- What follows the hyphen of an entry of a list. -/
def afterHyphen? : Text → Option Text
  | '-' :: rest => if beginsBlank rest then some rest else none
  | _ => none

/-- Whether a character has a meaning of its own inside brackets and braces. -/
def isFlowMark (c : Char) : Bool :=
  c == ',' || c == '[' || c == ']' || c == '\x7b' || c == '\x7d'

/-- Whether a text may begin with a character although it has no quotes. -/
def beginsPlain (inFlow : Bool) : Text → Bool
  | [] => false
  | c :: rest =>
      if c = '-' ∨ c = '?' ∨ c = ':' then
        !beginsBlank rest && !(inFlow && (rest.head?.any isFlowMark))
      else
        !(isFlowMark c || c == '#' || c == '&' || c == '*' || c == '!' || c == '|' || c == '>' ||
          c == '\'' || c == '"' || c == '%' || c == '@' || c == Char.ofNat 0x60 || isSpace c ||
          c == '\n')

/-- Whether a colon before this text separates a key from its value. -/
def separates (inFlow : Bool) (t : Text) : Bool :=
  beginsBlank t || (inFlow && t.head?.any isFlowMark)

/-- The part of a text without quotes that is on one line, and the rest. -/
def plainSpan (inFlow afterBlank : Bool) : Text → Text × Text
  | [] => ([], [])
  | c :: rest =>
      if c = '\n' ∨ (c = '#' ∧ afterBlank) ∨ (c = ':' ∧ separates inFlow rest) ∨
          (inFlow ∧ isFlowMark c) then ([], c :: rest)
      else
        let (span, rest) := plainSpan inFlow (isSpace c) rest
        (c :: span, rest)

def withoutBlanks (t : Text) : Text :=
  Text.dropEndWhile isSpace t

/-!
# Documents
-/

/-- What follows a mark on a line of its own or before a blank. -/
def afterMark? (mark line : Text) : Option Text :=
  (Text.after? mark line).filter beginsBlank

/-- A document: whether a line of hyphens begins it, and its lines. -/
structure Document where
  marked : Bool
  lines : List Text
deriving DecidableEq, Repr

namespace Document

def hasContent (d : Document) : Bool :=
  d.marked || !(nextContent false 0 (Text.unlines d.lines)).2.isEmpty

/-- The documents of some lines, behind the lines that have been read of the current one. -/
def split (current : Document) : List Text → List Document
  | [] => [current]
  | line :: rest =>
      match afterMark? "---".toList line with
      | some later => current :: split ⟨true, ["   ".toList ++ later]⟩ rest
      | none =>
          match afterMark? "...".toList line with
          | some later => current :: split ⟨false, ["   ".toList ++ later]⟩ rest
          | none =>
              if line.head? = some '%' ∧ !current.hasContent then split current rest
              else split { current with lines := current.lines ++ [line] } rest

def ofText (t : Text) : List Document :=
  (split ⟨false, []⟩ (Text.lines (normalBreaks t))).filter hasContent

end Document
end Yaml
end EndpointDocs
