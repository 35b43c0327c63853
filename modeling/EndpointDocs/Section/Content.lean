import EndpointDocs.Section.Keyword

/-!
# Content of a section

The content of a section is its lines without the heading and without the blank lines at both ends.
Text that follows the heading on the same line is the first line of the content.
-/

namespace EndpointDocs

/-- The first line of a section without its heading and the blanks around what is left. -/
def Keyword.withoutHeading (k : Keyword) (line : Text) : Text :=
  Text.trim ((Text.after? k.heading line).getD line)

namespace Section

/-- The lines of a section without the heading and the blank lines at both ends. -/
def content (k : Keyword) : List Text → List Text
  | [] => []
  | line :: rest => Text.trimLines (k.withoutHeading line :: rest)

def prose (k : Keyword) (ls : List Text) : Text :=
  Text.unlines (content k ls)

end Section
end EndpointDocs
