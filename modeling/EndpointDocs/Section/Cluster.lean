import EndpointDocs.Section.Keyword

/-!
# Sections of a body

A section runs from the line that opens it up to the next line that opens one, or to the end of the
body.  The lines before the first section belong to none.

## Other readers of lines

What opens a section is a parameter here, so that the division into sections can be spoken of for
every way of reading lines.
-/

namespace EndpointDocs

/-- A section of a body: its kind, the number of its first line, and that of the line after its
last. -/
structure Section where
  keyword : Keyword
  start : Nat
  stop : Nat
deriving DecidableEq, Repr

namespace Section

def lines (s : Section) (body : List Text) : List Text :=
  (body.drop s.start).take (s.stop - s.start)

/-- The section that is open, if there is one, up to a line that does not belong to it. -/
def closed (stop : Nat) : Option (Keyword × Nat) → List Section
  | some (k, start) => [⟨k, start, stop⟩]
  | none => []

/-- Goes through lines of which the first has the number `n`, with the keyword and the first line of
the section that is open.  A line that opens a section closes the one before. -/
def clusterFrom (opening : Text → Option Keyword) (current : Option (Keyword × Nat)) (n : Nat) :
    List Text → List Section
  | [] => closed n current
  | line :: rest =>
      match opening line with
      | none => clusterFrom opening current (n + 1) rest
      | some k => closed n current ++ clusterFrom opening (some (k, n)) (n + 1) rest

def cluster (opening : Text → Option Keyword) (body : List Text) : List Section :=
  clusterFrom opening none 0 body

end Section
end EndpointDocs
