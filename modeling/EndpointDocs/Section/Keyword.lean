import EndpointDocs.Section.RequestLine

/-!
# Section keywords

The body of a documentation block is made of sections.  A line opens a section when it begins with
one of six headings or has a request line in it.  The headings are told apart by letter case and
position: `description` and an indented `Description` open nothing.  What follows a heading on its
line does not matter, so `Examples` opens an example section too.

## Precedence

A line that begins with a heading opens the section of that heading even if it has a request line.
-/

namespace EndpointDocs

inductive Keyword where
  | description | successResponse | errorResponse | exampleCall | parameter | notes | method
deriving DecidableEq, Repr

namespace Keyword

/-- The kinds of sections, in the order in which a line is tested for them. -/
def all : List Keyword :=
  [description, successResponse, errorResponse, exampleCall, parameter, notes, method]

/-- The heading of a section.  A method section has none: its first line is a request line. -/
def heading : Keyword → Text
  | description => "Description".toList
  | successResponse => "Success Response".toList
  | errorResponse => "Error Response".toList
  | exampleCall => "Example".toList
  | parameter => "Parameter".toList
  | notes => "Notes".toList
  | method => "Method".toList

/-- Whether a line opens a section of this kind, if no kind before it takes the line. -/
def opens (k : Keyword) (line : Text) : Bool :=
  match k with
  | method => (RequestLine.find? line).isSome
  | k => Text.startsWith k.heading line

def ofLine? (line : Text) : Option Keyword :=
  all.find? fun k => k.opens line

end Keyword
end EndpointDocs
