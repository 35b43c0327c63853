import EndpointDocs.Numeral.Decimal
import EndpointDocs.Section.Cluster
import EndpointDocs.Section.Signature
import EndpointDocs.Text.Quoted

/-!
# From sections to an endpoint

Each section sets a field of the endpoint or adds an entry to one.  A later description, notes,
success response or request line takes the place of an earlier one; parameters, error responses and
examples are kept in order.

## Malformed sections

A response section must begin with a status code, a numeral up to 65535.  If it does not, the whole
body is malformed.  A parameter section without a signature is left out.
-/

namespace EndpointDocs

inductive SectionError where
  | invalidStatusCode (keyword : Keyword) (found : Text)
deriving DecidableEq, Repr

namespace SectionError

def message : SectionError → Text
  | invalidStatusCode keyword found =>
      keyword.heading ++ " section: invalid status code ".toList ++ Text.quoted found

end SectionError

/-- The status code that a numeral gives, if it fits into sixteen bits. -/
def statusCode? (t : Text) : Option UInt16 :=
  (Numeral.upTo? 65535 t).map UInt16.ofNat

namespace Section

/-- The response that a section documents: the status code on the first line, the content below. -/
def response (k : Keyword) (ls : List Text) : Except SectionError Response :=
  let code := Text.trim ((content k ls).headD [])
  match statusCode? code with
  | some n => .ok ⟨n, Text.unlines (content k ls).tail⟩
  | none => .error (.invalidStatusCode k code)

end Section

namespace Endpoint

/-- Sets the verb and the URL from the first line of a section, if it has a request line. -/
def withRequest (e : Endpoint) (ls : List Text) : Endpoint :=
  match ls.head?.bind RequestLine.find? with
  | some request => { e with method := request.verb.text, urlTemplate := request.url }
  | none => e

/-- Adds to an endpoint what a section says. -/
def withSection (e : Endpoint) (k : Keyword) (ls : List Text) : Except SectionError Endpoint :=
  match k with
  | .method => .ok (e.withRequest ls)
  | .description => .ok { e with description := Section.prose .description ls }
  | .notes => .ok { e with notes := Section.prose .notes ls }
  | .exampleCall => .ok { e with examples := e.examples ++ [Section.prose .exampleCall ls] }
  | .parameter =>
      match Section.parameter? ls with
      | some p => .ok { e with urlParams := e.urlParams ++ [p] }
      | none => .ok e
  | .successResponse =>
      match Section.response .successResponse ls with
      | .ok r => .ok { e with successResponse := r }
      | .error problem => .error problem
  | .errorResponse =>
      match Section.response .errorResponse ls with
      | .ok r => .ok { e with errorResponses := e.errorResponses ++ [r] }
      | .error problem => .error problem

/-- Adds to an endpoint what the sections of a body say, up to the first malformed one. -/
def withSections (body : List Text) (e : Endpoint) :
    List Section → Except SectionError Endpoint
  | [] => .ok e
  | s :: rest =>
      match e.withSection s.keyword (s.lines body) with
      | .ok e' => withSections body e' rest
      | .error problem => .error problem

def ofBody (name body : Text) : Except SectionError Endpoint :=
  withSections (Text.lines body) { name } (Section.cluster Keyword.ofLine? (Text.lines body))

end Endpoint
end EndpointDocs
