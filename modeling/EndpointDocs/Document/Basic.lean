import EndpointDocs.Document.Format
import EndpointDocs.Document.Html
import EndpointDocs.Document.Json
import EndpointDocs.Document.Markdown

/-!
# Documents

The document about a list of endpoints, in each of the formats.
-/

namespace EndpointDocs

def Format.document : Format → List Endpoint → Text
  | .markdown => Markdown.document
  | .html => Html.document
  | .json => Json.document

end EndpointDocs
