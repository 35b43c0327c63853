import EndpointDocs.Text.Basic

/-!
# Documented endpoints

An endpoint is one operation of a web service as its documentation describes it: the request that
reaches it, the parameters of the request, the responses it gives, example calls and remarks.
-/

namespace EndpointDocs

/-- A parameter of a request.  The type is free text, such as `array of strings`. -/
structure Parameter where
  name : Text := []
  required : Bool := false
  type : Text := []
  description : Text := []
deriving DecidableEq, Repr, Inhabited

structure Response where
  code : UInt16 := 0
  content : Text := []
deriving DecidableEq, Repr, Inhabited

/-- The documentation of one endpoint.  The method is the verb of the request, and the segments of
the URL template that begin with a colon stand for parameters. -/
structure Endpoint where
  name : Text := []
  description : Text := []
  method : Text := []
  urlTemplate : Text := []
  urlParams : List Parameter := []
  dataParams : List Parameter := []
  successResponse : Response := {}
  errorResponses : List Response := []
  examples : List Text := []
  notes : Text := []
deriving DecidableEq, Repr, Inhabited

end EndpointDocs
