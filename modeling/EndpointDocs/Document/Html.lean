import EndpointDocs.Document.Markdown

/-!
# HTML pages

A page is a list of pieces: markup, which is fixed, and texts, in which the characters of markup are
escaped.  Every field of an endpoint is a text.
-/

namespace EndpointDocs
namespace Html

/-- A piece of a page. -/
inductive Piece where
  | markup (t : Text)
  | text (t : Text)
deriving DecidableEq, Repr

def escapedChar (c : Char) : Text :=
  match c with
  | '&' => "&amp;".toList
  | '<' => "&lt;".toList
  | '>' => "&gt;".toList
  | '"' => "&quot;".toList
  | '\'' => "&#39;".toList
  | c => [c]

namespace Piece

def written : Piece → Text
  | markup t => t
  | text t => t.flatMap escapedChar

end Piece

def head : Text :=
  ("<!DOCTYPE html>\n<html lang=\"en\">\n  <head>\n    <meta charset=\"utf-8\">\n" ++
    "    <meta http-equiv=\"X-UA-Compatible\" content=\"IE=edge\">\n" ++
    "    <meta name=\"viewport\" content=\"width=device-width, initial-scale=1\">\n" ++
    "    <title>apidoc</title>\n    <link rel=\"stylesheet\" href=\"" ++
    "https://maxcdn.bootstrapcdn.com/bootstrap/3.3.4/css/bootstrap.min.css\">\n" ++
    "  </head>\n  <body>\n").toList

def tail : Text :=
  "  </body>\n</html>\n".toList

/-- A text between two pieces of markup. -/
def element (before t after : Text) : List Piece :=
  [.markup before, .text t, .markup after]

def elementIfAny (before t after : Text) : List Piece :=
  if t.isEmpty then [] else element before t after

def parameterList (title : Text) (ps : List Parameter) : List Piece :=
  if ps.isEmpty then []
  else
    .markup ("      <h4>".toList ++ title ++ "</h4>\n      <ul>\n".toList) ::
      ps.flatMap (fun p =>
        element "        <li>".toList (Markdown.parameterLine p) "</li>\n".toList) ++
      [.markup "      </ul>\n".toList]

def code (t : Text) : List Piece :=
  element "      <pre>".toList t "</pre>\n".toList

def response (r : Response) : List Piece :=
  element "      <code>".toList (Numeral.decimal r.code.toNat) "</code>: <span>".toList ++
    [.markup (statusPhrase r.code), .markup "</span>\n".toList] ++
    (if r.content.isEmpty then [] else code r.content)

def endpoint (e : Endpoint) : List Piece :=
  .markup "    <div class=\"container\">\n".toList ::
    element "      <h3>".toList e.method " [".toList ++ element [] e.urlTemplate "]</h3>\n".toList ++
    elementIfAny "      <p>".toList e.description "</p>\n".toList ++
    elementIfAny "      <p><em>NOTE:</em> ".toList e.notes "</p>\n".toList ++
    parameterList "Parameters".toList e.urlParams ++
    parameterList "Request Body Parameters".toList e.dataParams ++
    .markup "      <h4>Example success response</h4>\n".toList :: response e.successResponse ++
    (if e.errorResponses.isEmpty then []
      else .markup "      <h4>Example error responses</h4>\n".toList ::
        e.errorResponses.flatMap response) ++
    (if e.examples.isEmpty then []
      else .markup "      <h4>Examples</h4>\n".toList :: e.examples.flatMap code) ++
    [.markup "    </div>\n".toList]

def page (es : List Endpoint) : List Piece :=
  .markup head :: es.flatMap endpoint ++ [.markup tail]

def document (es : List Endpoint) : Text :=
  (page es).flatMap Piece.written

end Html
end EndpointDocs
