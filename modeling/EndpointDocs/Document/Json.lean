import EndpointDocs.Endpoint.Basic
import EndpointDocs.Value.Json.Printer

/-!
# JSON documents

Endpoints, parameters and responses are tables with an entry for every field, in a fixed order.  The
document is the list of the endpoints, followed by a line feed.
-/

namespace EndpointDocs

def Parameter.toValue (p : Parameter) : Value :=
  .table
    [("name".toList, .text p.name),
     ("required".toList, .bool p.required),
     ("type".toList, .text p.type),
     ("description".toList, .text p.description)]

def Response.toValue (r : Response) : Value :=
  .table
    [("code".toList, .integer r.code.toNat),
     ("content".toList, .text r.content)]

def Endpoint.toValue (e : Endpoint) : Value :=
  .table
    [("name".toList, .text e.name),
     ("description".toList, .text e.description),
     ("method".toList, .text e.method),
     ("url_template".toList, .text e.urlTemplate),
     ("url_params".toList, .list (e.urlParams.map Parameter.toValue)),
     ("data_params".toList, .list (e.dataParams.map Parameter.toValue)),
     ("success_response".toList, e.successResponse.toValue),
     ("error_responses".toList, .list (e.errorResponses.map Response.toValue)),
     ("examples".toList, .list (e.examples.map Value.text)),
     ("notes".toList, .text e.notes)]

namespace Json

def document (es : List Endpoint) : Text :=
  render 0 (.list (es.map Endpoint.toValue)) ++ ['\n']

end Json
end EndpointDocs
