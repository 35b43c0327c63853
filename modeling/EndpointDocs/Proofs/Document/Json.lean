import EndpointDocs.Document.Basic
import EndpointDocs.Proofs.Value.Json.Reading

/-!
# Endpoints read from JSON documents

A JSON document is read as one value, and the endpoints are found in it again: every field under its
name, whatever stands in it.  An entry of a table is looked up by its name alone, so the order of
the fields does not matter to whoever reads the document.
-/

namespace EndpointDocs

/-!
## Fields of tables
-/

namespace Value

def text? : Value → Option Text
  | .text t => some t
  | _ => none

def bool? : Value → Option Bool
  | .bool b => some b
  | _ => none

/-- A number that fits into 16 bits without a sign. -/
def short? : Value → Option UInt16
  | .integer (.ofNat n) => if n < UInt16.size then some (UInt16.ofNat n) else none
  | _ => none

def items? {α : Type} (read? : Value → Option α) : Value → Option (List α)
  | .list items => items.mapM read?
  | _ => none

/-- What the entry of this name gives. -/
def field? {α : Type} (name : Text) (read? : Value → Option α) : Value → Option α
  | .table entries => (lookup? name entries).bind read?
  | _ => none

theorem items?_map {α : Type} {read? : Value → Option α} {write : α → Value}
    (h : ∀ a, read? (write a) = some a) (as : List α) :
    items? read? (.list (as.map write)) = some as := by
  show (as.map write).mapM read? = some as
  induction as with
  | nil =>
      rfl
  | cons a as ih =>
      rw [List.map_cons, List.mapM_cons, h, ih]
      rfl

theorem short?_toNat (n : UInt16) : short? (.integer n.toNat) = some n := by
  show (if n.toNat < UInt16.size then some (UInt16.ofNat n.toNat) else none) = some n
  rw [if_pos n.toNat_lt, UInt16.ofNat_toNat]

end Value

/-!
## Endpoints
-/

def Parameter.ofValue? (v : Value) : Option Parameter := do
  let name ← v.field? "name".toList Value.text?
  let required ← v.field? "required".toList Value.bool?
  let type ← v.field? "type".toList Value.text?
  let description ← v.field? "description".toList Value.text?
  return { name, required, type, description }

def Response.ofValue? (v : Value) : Option Response := do
  let code ← v.field? "code".toList Value.short?
  let content ← v.field? "content".toList Value.text?
  return { code, content }

def Endpoint.ofValue? (v : Value) : Option Endpoint := do
  let name ← v.field? "name".toList Value.text?
  let description ← v.field? "description".toList Value.text?
  let method ← v.field? "method".toList Value.text?
  let urlTemplate ← v.field? "url_template".toList Value.text?
  let urlParams ← v.field? "url_params".toList (Value.items? Parameter.ofValue?)
  let dataParams ← v.field? "data_params".toList (Value.items? Parameter.ofValue?)
  let successResponse ← v.field? "success_response".toList Response.ofValue?
  let errorResponses ← v.field? "error_responses".toList (Value.items? Response.ofValue?)
  let examples ← v.field? "examples".toList (Value.items? Value.text?)
  let notes ← v.field? "notes".toList Value.text?
  return { name, description, method, urlTemplate, urlParams, dataParams, successResponse,
           errorResponses, examples, notes }

theorem Parameter.ofValue?_toValue (p : Parameter) : ofValue? p.toValue = some p := by
  simp [ofValue?, toValue, Value.field?, Value.lookup?, Value.text?, Value.bool?]

theorem Response.ofValue?_toValue (r : Response) : ofValue? r.toValue = some r := by
  simp [ofValue?, toValue, Value.field?, Value.lookup?, Value.text?, Value.short?_toNat]

theorem Endpoint.ofValue?_toValue (e : Endpoint) : ofValue? e.toValue = some e := by
  have hparameters : ∀ ps : List Parameter,
      Value.items? Parameter.ofValue? (.list (ps.map Parameter.toValue)) = some ps :=
    Value.items?_map Parameter.ofValue?_toValue
  have hresponses : ∀ rs : List Response,
      Value.items? Response.ofValue? (.list (rs.map Response.toValue)) = some rs :=
    Value.items?_map Response.ofValue?_toValue
  have hexamples : ∀ ts : List Text, Value.items? Value.text? (.list (ts.map Value.text)) = some ts :=
    Value.items?_map fun _ => rfl
  simp [ofValue?, toValue, Value.field?, Value.lookup?, Value.text?, hparameters, hresponses,
    hexamples, Response.ofValue?_toValue]

/-!
## Depth and numbers of an endpoint
-/

namespace Value

theorem areIntegral_map {α : Type} {write : α → Value} (h : ∀ a, (write a).isIntegral = true)
    (as : List α) : areIntegral (as.map write) = true := by
  induction as with
  | nil =>
      rfl
  | cons a as ih =>
      rw [List.map_cons, areIntegral, h, ih]
      rfl

theorem depthOfItems_map_le {α : Type} {write : α → Value} {n : Nat}
    (h : ∀ a, (write a).depth ≤ n) (as : List α) : depthOfItems (as.map write) ≤ n := by
  induction as with
  | nil =>
      exact Nat.zero_le n
  | cons a as ih =>
      rw [List.map_cons, depthOfItems]
      exact Nat.max_le.mpr ⟨h a, ih⟩

end Value

theorem Response.isIntegral_toValue (r : Response) : r.toValue.isIntegral = true := by
  have hcode : r.code.toNat < 65536 := r.code.toNat_lt
  simp [toValue, Value.isIntegral, Value.haveIntegral, Value.isLong]
  omega

theorem Endpoint.isIntegral_toValue (e : Endpoint) : e.toValue.isIntegral = true := by
  have hparameters : ∀ ps : List Parameter,
      Value.areIntegral (ps.map Parameter.toValue) = true :=
    Value.areIntegral_map fun _ => rfl
  have hresponses : ∀ rs : List Response, Value.areIntegral (rs.map Response.toValue) = true :=
    Value.areIntegral_map Response.isIntegral_toValue
  have hexamples : ∀ ts : List Text, Value.areIntegral (ts.map Value.text) = true :=
    Value.areIntegral_map fun _ => rfl
  simp [toValue, Value.isIntegral, Value.haveIntegral, hparameters, hresponses, hexamples,
    Response.isIntegral_toValue]

/-- An endpoint is a table of lists of tables. -/
theorem Endpoint.depth_toValue_le (e : Endpoint) : e.toValue.depth ≤ 3 := by
  have hparameters : ∀ ps : List Parameter, Value.depthOfItems (ps.map Parameter.toValue) ≤ 1 :=
    Value.depthOfItems_map_le fun _ => Nat.le_refl 1
  have hresponses : ∀ rs : List Response, Value.depthOfItems (rs.map Response.toValue) ≤ 1 :=
    Value.depthOfItems_map_le fun _ => Nat.le_refl 1
  have hexamples : ∀ ts : List Text, Value.depthOfItems (ts.map Value.text) ≤ 1 :=
    Value.depthOfItems_map_le fun _ => Nat.zero_le 1
  have hsuccess : e.successResponse.toValue.depth = 1 := rfl
  simp only [toValue, Value.depth, Value.depthOfEntries, hsuccess]
  have := hparameters e.urlParams
  have := hparameters e.dataParams
  have := hresponses e.errorResponses
  have := hexamples e.examples
  omega

/-!
## Documents
-/

namespace Json

/-- The endpoints that a text tells of. -/
def endpoints? (t : Text) : Option (List Endpoint) :=
  (read? t).bind (Value.items? Endpoint.ofValue?)

theorem read?_render_endpoints (es : List Endpoint) {rest : Text}
    (hrest : ∀ c ∈ rest, isSpace c = true) :
    read? (render 0 (.list (es.map Endpoint.toValue)) ++ rest) =
      some (.list (es.map Endpoint.toValue)) := by
  apply read?_render
  · exact Value.areIntegral_map Endpoint.isIntegral_toValue es
  · have hitems := Value.depthOfItems_map_le Endpoint.depth_toValue_le es
    simp only [Value.depth, depthLimit]
    omega
  · exact hrest

/-- A document is one JSON text and a line feed, and every field of every endpoint is read from it
as it was, whatever characters it holds. -/
theorem document_reads_back (es : List Endpoint) :
    ∃ t, Format.json.document es = t ++ ['\n'] ∧
      read? t = some (.list (es.map Endpoint.toValue)) ∧
      read? (Format.json.document es) = some (.list (es.map Endpoint.toValue)) ∧
      endpoints? (Format.json.document es) = some es := by
  have hread : read? (render 0 (.list (es.map Endpoint.toValue)) ++ []) =
      some (.list (es.map Endpoint.toValue)) := read?_render_endpoints es (by simp)
  have hdocument : read? (Format.json.document es) = some (.list (es.map Endpoint.toValue)) :=
    read?_render_endpoints es (by simp [isSpace])
  rw [List.append_nil] at hread
  refine ⟨render 0 (.list (es.map Endpoint.toValue)), rfl, hread, hdocument, ?_⟩
  rw [endpoints?, hdocument]
  exact Value.items?_map Endpoint.ofValue?_toValue es

end Json

end EndpointDocs
