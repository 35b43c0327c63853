import EndpointDocs.Text.Ranges

/-!
# Blank characters and blank lines

A character is blank when it has the property White_Space of the Unicode standard: twenty-five
characters, among them the tabulator, the line feed, the carriage return, the space, the no-break
space and the ideographic space.  The zero-width space and the byte order mark are not blank.

## Trimming

`trimEnd` drops the blanks at the end of a text, `trim` those at both ends.  A text is blank when
all its characters are, and then trimming leaves nothing of it.
-/

namespace EndpointDocs
namespace Text

/-- The characters with the property White_Space. -/
def blanks : Ranges :=
  [(0x9, 0xD), (0x20, 0x20), (0x85, 0x85), (0xA0, 0xA0), (0x1680, 0x1680), (0x2000, 0x200A),
   (0x2028, 0x2029), (0x202F, 0x202F), (0x205F, 0x205F), (0x3000, 0x3000)]

/-- Whether a character has the property White_Space. -/
def isBlank (c : Char) : Bool :=
  inRanges blanks c

def allBlank (t : Text) : Bool :=
  t.all isBlank

def trimStart (t : Text) : Text :=
  t.dropWhile isBlank

def trimEnd (t : Text) : Text :=
  dropEndWhile isBlank t

def trim (t : Text) : Text :=
  trimEnd (trimStart t)

/-- Lists of lines without the blank lines at their ends. -/
def trimLines (ls : List Text) : List Text :=
  dropEndWhile allBlank (ls.dropWhile allBlank)

end Text
end EndpointDocs
