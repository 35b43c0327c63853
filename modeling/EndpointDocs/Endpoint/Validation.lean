import EndpointDocs.Endpoint.Basic

/-!
# Complete endpoints

The documentation of an endpoint is complete when it gives the verb and the URL of the request and
documents every parameter that the URL mentions.  A segment of the URL mentions a parameter when it
begins with a colon; the rest of the segment is the name, which may be empty.

## First problem

`Endpoint.problem?` reports one problem: a missing verb before a missing URL, and a missing URL
before the leftmost parameter without documentation.
-/

namespace EndpointDocs

/-- What an endpoint's documentation lacks. -/
inductive Problem where
  | missingMethod
  | missingUrl
  | missingUrlParameter (name : Text)
deriving DecidableEq, Repr

namespace Problem

def message : Problem → Text
  | missingMethod => "missing HTTP verb".toList
  | missingUrl => "missing URL".toList
  | missingUrlParameter name => "missing documentation for URL param: ".toList ++ name

end Problem

/-- The name of the parameter that a segment of a URL stands for. -/
def segmentParameter? (segment : Text) : Option Text :=
  Text.after? [':'] segment

def urlParameters (template : Text) : List Text :=
  (List.splitOn '/' template).filterMap segmentParameter?

namespace Endpoint

def documents (e : Endpoint) (name : Text) : Bool :=
  e.urlParams.any fun p => p.name == name

/-- The first problem of an endpoint's documentation, if it is not complete. -/
def problem? (e : Endpoint) : Option Problem :=
  if e.method.isEmpty then some .missingMethod
  else if e.urlTemplate.isEmpty then some .missingUrl
  else
    ((urlParameters e.urlTemplate).find? fun name => !e.documents name).map
      .missingUrlParameter

end Endpoint
end EndpointDocs
