import EndpointDocs.Text.Blank

/-!
# Plain text of comments

The plain text of a run of comments is what they say, without the marks that make them comments.
Of a line comment the two slashes and one space after them are left out, of a block comment the
delimiters.  Blanks at line ends do not count.

## Directives

A line comment that begins with a tool's name, a colon and a letter or digit, without a space after
the slashes, is an instruction to that tool and says nothing.

## Blank lines

There are none at the start, none at the end, and never two in a row.  A text that is not empty ends
with a line feed.
-/

namespace EndpointDocs
namespace Comment

/-- The characters of tool names: small letters and digits. -/
def isToolChar (c : Char) : Bool :=
  c.isLower || c.isDigit

/-- Whether what follows the slashes of a line comment is an instruction to a tool. -/
def isDirective (t : Text) : Bool :=
  match t.takeWhile isToolChar, t.dropWhile isToolChar with
  | _ :: _, ':' :: c :: _ => isToolChar c
  | _, _ => false

def withoutClosing (t : Text) : Text :=
  match t.reverse with
  | '/' :: '*' :: rest => rest.reverse
  | _ => t

/-- What a comment says, unless it is a directive. -/
def inner? : Text → Option Text
  | '/' :: '/' :: ' ' :: rest => some rest
  | '/' :: '/' :: rest => if isDirective rest then none else some rest
  | '/' :: '*' :: rest => some (withoutClosing rest)
  | t => some t

def contentLines (raw : Text) : List Text :=
  match inner? raw with
  | some t => (Text.lines t).map Text.trimEnd
  | none => []

/-- Drops empty lines that follow an empty line; `gap` tells whether one comes before the list. -/
def squeeze (gap : Bool) : List Text → List Text
  | [] => []
  | line :: rest =>
      if line.isEmpty && gap then squeeze gap rest else line :: squeeze line.isEmpty rest

/-- Lines without empty ones at the ends and without two empty ones in a row.  No more than one
empty line is left at the end to be dropped. -/
def normalLines (ls : List Text) : List Text :=
  let kept := squeeze true ls
  if kept.getLast?.any List.isEmpty then kept.dropLast else kept

/-- The plain text of a run of comments, each given with its delimiters. -/
def plainText (raws : List Text) : Text :=
  match normalLines (raws.flatMap contentLines) with
  | [] => []
  | ls => Text.unlines ls ++ ['\n']

end Comment
end EndpointDocs
