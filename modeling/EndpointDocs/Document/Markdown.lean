import EndpointDocs.Document.StatusPhrase
import EndpointDocs.Endpoint.Basic
import EndpointDocs.Numeral.Decimal

/-!
# Markdown documents

A document has one part for each endpoint, with a rule between neighbours.  Examples and the content
of responses are code: each of their lines that is not empty is indented by four spaces, which keeps
it from being read as Markdown.

## Lines of code

A line ends with a line feed, or with a carriage return and a line feed.  Nothing comes after the
last end of line, so a text that ends with one has no empty last line.
-/

namespace EndpointDocs
namespace Markdown

def withoutReturn (line : Text) : Text :=
  match line.reverse with
  | '\r' :: rest => rest.reverse
  | _ => line

/-- The lines of a text of which these are the pieces between line feeds. -/
def codeLinesOf : List Text → List Text
  | [] => []
  | [last] => if last.isEmpty then [] else [last]
  | line :: rest => withoutReturn line :: codeLinesOf rest

def codeLines (t : Text) : List Text :=
  codeLinesOf (Text.lines t)

def indentLine (line : Text) : Text :=
  if line.isEmpty then [] else "    ".toList ++ line

def indent (t : Text) : Text :=
  Text.unlines ((codeLines t).map indentLine)

/-- A paragraph: a text and an empty line. -/
def paragraph (t : Text) : Text :=
  t ++ "\n\n".toList

def paragraphIfAny (before t : Text) : Text :=
  if t.isEmpty then [] else paragraph (before ++ t)

/-- What is said about a parameter besides its name and description. -/
def attributes (p : Parameter) : List Text :=
  (if p.required then ["required".toList] else []) ++ (if p.type.isEmpty then [] else [p.type])

/-- A parameter on one line: `name (required type) : description`. -/
def parameterLine (p : Parameter) : Text :=
  p.name ++
    (if (attributes p).isEmpty then [] else " (".toList ++ Text.unwords (attributes p) ++ [')']) ++
    (if p.description.isEmpty then [] else " : ".toList ++ p.description)

def parameterList (title : Text) (ps : List Parameter) : Text :=
  if ps.isEmpty then []
  else
    paragraph ("#### ".toList ++ title) ++
      ps.flatMap (fun p => "* ".toList ++ parameterLine p ++ ['\n']) ++ ['\n']

def response (r : Response) : Text :=
  paragraph ("`".toList ++ Numeral.decimal r.code.toNat ++ "`: ".toList ++ statusPhrase r.code) ++
    (if r.content.isEmpty then [] else paragraph (indent r.content))

def endpoint (e : Endpoint) : Text :=
  paragraph ("### ".toList ++ e.method ++ " [".toList ++ e.urlTemplate ++ [']']) ++
    paragraphIfAny [] e.description ++
    paragraphIfAny "**NOTE:** ".toList e.notes ++
    parameterList "Parameters".toList e.urlParams ++
    parameterList "Request Body Parameters".toList e.dataParams ++
    "#### Example success response\n".toList ++ response e.successResponse ++
    (if e.errorResponses.isEmpty then []
      else "#### Example error responses\n".toList ++ e.errorResponses.flatMap response) ++
    (if e.examples.isEmpty then []
      else paragraph "#### Examples".toList ++ e.examples.flatMap fun t => paragraph (indent t))

def document (es : List Endpoint) : Text :=
  List.intercalate "\n---\n\n".toList (es.map endpoint)

end Markdown
end EndpointDocs
