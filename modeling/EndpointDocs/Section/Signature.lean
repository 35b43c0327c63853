import EndpointDocs.Endpoint.Basic
import EndpointDocs.Section.Content
import EndpointDocs.Text.Word

/-!
# Parameter sections

The first line of a parameter section is the signature of the parameter: its name, then `required`
if it is, then its type if it is given, with commas between them.

## Reading a signature

A signature is read from left to right.  After the name the word `required` is tried first; if the
rest of the line then makes no sense, `required` is taken as the beginning of the type.  So
`id, required` says that the parameter is required, while `id, required header` gives it a type of
two words.
-/

namespace EndpointDocs

/-- What the first line of a parameter section says. -/
structure Signature where
  name : Text
  required : Bool
  type : Text
deriving DecidableEq, Repr

namespace Signature

/-- The characters of names: word characters and hyphens. -/
def isNameChar (c : Char) : Bool :=
  Text.isWord c || c == '-'

/-- The characters of types: word characters and blanks. -/
def isTypeChar (c : Char) : Bool :=
  Text.isWord c || Text.isBlank c

/-- What follows a comma that may have blanks around it. -/
def afterComma? (t : Text) : Option Text :=
  match Text.trimStart t with
  | ',' :: rest => some (Text.trimStart rest)
  | _ => none

/-- The type at the end of a signature; at the end of the line there is none. -/
def type? (t : Text) : Option Text :=
  if t.isEmpty then some []
  else (afterComma? t).filter fun type => !type.isEmpty && type.all isTypeChar

/-- What follows `required`, if that is the next part of a signature. -/
def afterRequired? (t : Text) : Option Text :=
  (afterComma? t).bind (Text.after? "required".toList)

/-- Whether the parameter is required, and its type, from what follows the name. -/
def requiredAndType? (t : Text) : Option (Bool × Text) :=
  (((afterRequired? t).bind type?).map fun type => (true, type)).or
    ((type? t).map fun type => (false, type))

/-- Reads a line without blanks at its ends as a signature. -/
def read? (line : Text) : Option Signature :=
  let name := line.takeWhile isNameChar
  if name.isEmpty then none
  else
    (requiredAndType? (line.dropWhile isNameChar)).map fun (required, type) =>
      ⟨name, required, type⟩

end Signature

namespace Section

/-- The parameter that a section documents, if its first line is a signature.  The lines after that
are put side by side as the description. -/
def parameter? (ls : List Text) : Option Parameter :=
  match content .parameter ls with
  | [] => none
  | line :: description =>
      (Signature.read? (Text.trim line)).map fun s =>
        ⟨s.name, s.required, s.type, Text.unwords description⟩

end Section
end EndpointDocs
