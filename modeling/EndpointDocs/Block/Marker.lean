import EndpointDocs.Text.Blank

/-!
# Markers

A comment documents an endpoint when it begins with `apidoc(name)`.  Before the marker there may be
blanks, slashes and asterisks, and behind it a colon.  The name is any text without a closing
parenthesis, line feeds included, that is not empty.
-/

namespace EndpointDocs

/-- A marker that begins a text: the name it gives and the text behind it. -/
structure Marker where
  name : Text
  body : Text
deriving DecidableEq, Repr

namespace Marker

/-- The characters that may come before a marker. -/
def isLeading (c : Char) : Bool :=
  Text.isBlank c || c == '/' || c == '*'

def withoutColon : Text → Text
  | ':' :: rest => rest
  | t => t

/-- Reads a marker from what follows its opening parenthesis. -/
def fromName? (t : Text) : Option Marker :=
  match t.takeWhile (· != ')'), t.dropWhile (· != ')') with
  | c :: name, _ :: rest => some ⟨c :: name, withoutColon rest⟩
  | _, _ => none

def read? (t : Text) : Option Marker :=
  (Text.after? "apidoc(".toList (t.dropWhile isLeading)).bind fromName?

end Marker
end EndpointDocs
