import EndpointDocs.Proofs.Document.Indentation

/-!
# Layout of a Markdown document

The layout of a document is its lines that are not empty and not indented as code: headings, list
items, status lines and the rules between endpoints.  A code block begins at the start of a line and
ends with an end of line wherever it stands, so it has no part in the layout.  Endpoints that differ
in the texts of their code only have documents with the same layout.
-/

namespace EndpointDocs

/-- Whether endpoints differ only in the texts of contents and examples, as far as a document shows
them. -/
structure Endpoint.AgreesBesideCode (e f : Endpoint) : Prop where
  method : e.method = f.method
  urlTemplate : e.urlTemplate = f.urlTemplate
  description : e.description = f.description
  notes : e.notes = f.notes
  urlParams : e.urlParams = f.urlParams
  dataParams : e.dataParams = f.dataParams
  successCode : e.successResponse.code = f.successResponse.code
  errorCodes : e.errorResponses.map Response.code = f.errorResponses.map Response.code
  examples : e.examples = [] ↔ f.examples = []

namespace Markdown

/-- Whether a line belongs to the layout. -/
def isLayout (line : Text) : Bool :=
  !line.isEmpty && !Text.startsWith codeIndent line

def layout (t : Text) : List Text :=
  (Text.lines t).filter isLayout

/-!
# Layout of texts put together
-/

theorem layout_append_lineFeed (a b : Text) : layout (a ++ '\n' :: b) = layout a ++ layout b := by
  rw [layout, Text.lines_append_lineFeed, List.filter_append, layout, layout]

theorem layout_nil : layout [] = [] := by
  rfl

theorem layout_paragraph_append (t b : Text) :
    layout (paragraph t ++ b) = layout t ++ layout b := by
  have hparagraph : paragraph t ++ b = t ++ '\n' :: ([] ++ '\n' :: b) := by
    simp [paragraph]
  rw [hparagraph, layout_append_lineFeed, layout_append_lineFeed, layout_nil, List.nil_append]

theorem layout_indent (t : Text) : layout (indent t) = [] := by
  rw [layout, List.filter_eq_nil_iff]
  intro l hl hlayout
  rw [isLayout, Bool.and_eq_true, Bool.not_eq_true', Bool.not_eq_true'] at hlayout
  have hne : l ≠ [] := by
    simpa using hlayout.left
  rcases isPrefix_of_mem_lines_indent hl hne with ⟨line, hline⟩
  rw [← hline, Text.startsWith, Text.after?_append] at hlayout
  cases hlayout.right

/-!
# Layout of the parts of a document

Of responses the layout shows the codes only, and of examples whether there are any.
-/

def statusLine (code : UInt16) : Text :=
  "`".toList ++ Numeral.decimal code.toNat ++ "`: ".toList ++ statusPhrase code

/-- The layout of error responses with these codes. -/
def errorLayout (codes : List UInt16) : List Text :=
  if codes.isEmpty then []
  else
    layout "#### Example error responses".toList ++
      codes.flatMap fun code => layout (statusLine code)

theorem layout_response_append (r : Response) (b : Text) :
    layout (response r ++ b) = layout (statusLine r.code) ++ layout b := by
  rw [response, List.append_assoc]
  change layout (paragraph (statusLine r.code) ++ _) = _
  rw [layout_paragraph_append]
  cases r.content.isEmpty with
  | true =>
      rfl
  | false =>
      change _ ++ layout (paragraph (indent r.content) ++ b) = _
      rw [layout_paragraph_append, layout_indent, List.nil_append]

theorem layout_responses_append (rs : List Response) (b : Text) :
    layout (rs.flatMap response ++ b) =
      ((rs.map Response.code).flatMap fun code => layout (statusLine code)) ++ layout b := by
  induction rs with
  | nil =>
      rfl
  | cons r rest ih =>
      rw [List.flatMap_cons, List.append_assoc, layout_response_append, ih, List.map_cons,
        List.flatMap_cons, List.append_assoc]

theorem layout_errorPart_append (rs : List Response) (b : Text) :
    layout (errorPart rs ++ b) = errorLayout (rs.map Response.code) ++ layout b := by
  have htitle : "#### Example error responses\n".toList =
      "#### Example error responses".toList ++ ['\n'] := by
    decide
  cases rs with
  | nil =>
      rfl
  | cons r rest =>
      have hne : (r :: rest).isEmpty = false := rfl
      have hcodes : ((r :: rest).map Response.code).isEmpty = false := rfl
      rw [errorPart, errorLayout, hne, hcodes, if_neg Bool.false_ne_true,
        if_neg Bool.false_ne_true, htitle, List.append_assoc, List.append_assoc,
        List.singleton_append, layout_append_lineFeed, layout_responses_append, List.append_assoc]

theorem layout_codeParagraphs (ts : List Text) :
    layout (ts.flatMap fun t => paragraph (indent t)) = [] := by
  induction ts with
  | nil =>
      rfl
  | cons t rest ih =>
      rw [List.flatMap_cons, layout_paragraph_append, layout_indent, ih, List.nil_append]

theorem layout_examplePart (ts : List Text) :
    layout (examplePart ts) = if ts = [] then [] else layout "#### Examples".toList := by
  cases ts with
  | nil =>
      rfl
  | cons t rest =>
      have hne : (t :: rest).isEmpty = false := rfl
      rw [examplePart, hne, if_neg Bool.false_ne_true, if_neg (List.cons_ne_nil t rest),
        layout_paragraph_append, layout_codeParagraphs, List.append_nil]

theorem layout_endpoint (e : Endpoint) :
    layout (endpoint e) =
      layout (opening e) ++ (layout (statusLine e.successResponse.code) ++
        (errorLayout (e.errorResponses.map Response.code) ++
          if e.examples = [] then [] else layout "#### Examples".toList)) := by
  rw [endpoint_eq_parts, layout_append_lineFeed, layout_response_append, layout_errorPart_append,
    layout_examplePart]

theorem layout_document_cons (e : Endpoint) {rest : List Endpoint} (h : rest ≠ []) :
    layout (document (e :: rest)) =
      layout (endpoint e) ++ (layout "---".toList ++ layout (document rest)) := by
  rw [document_cons e h, layout_append_lineFeed, layout_paragraph_append]

/-!
# Documents that differ in code
-/

theorem opening_eq {e f : Endpoint} (h : e.AgreesBesideCode f) : opening e = opening f := by
  rw [opening, opening, h.method, h.urlTemplate, h.description, h.notes, h.urlParams, h.dataParams]

theorem layout_endpoint_eq {e f : Endpoint} (h : e.AgreesBesideCode f) :
    layout (endpoint e) = layout (endpoint f) := by
  simp only [layout_endpoint, opening_eq h, h.successCode, h.errorCodes, h.examples]

/-- Contents and examples, whatever they say, add nothing to the layout of a document and take
nothing from it. -/
theorem layout_document_of_agreesBesideCode {es fs : List Endpoint}
    (h : List.Forall₂ Endpoint.AgreesBesideCode es fs) :
    layout (document es) = layout (document fs) := by
  induction h with
  | nil =>
      rfl
  | cons he hrest ih =>
      cases hrest with
      | nil =>
          rw [document_singleton, document_singleton, layout_endpoint_eq he]
      | cons _ _ =>
          rw [layout_document_cons _ (List.cons_ne_nil _ _), layout_endpoint_eq he, ih,
            layout_document_cons _ (List.cons_ne_nil _ _)]

/-- A content with a rule and a heading, and examples that break lines in several ways. -/
def unruly : Endpoint where
  method := "GET".toList
  urlTemplate := "/items".toList
  description := "    indented\n\n* listed".toList
  successResponse := ⟨200, "\r\n---\n\n### GET [/x]\r\n* a\n".toList⟩
  errorResponses := [⟨404, "`500`: \r# b".toList⟩, ⟨410, []⟩]
  examples := ["\n\n".toList, "#### Examples\n".toList]

/-- An endpoint with the same documentation around its code. -/
def orderly : Endpoint where
  method := "GET".toList
  urlTemplate := "/items".toList
  description := "    indented\n\n* listed".toList
  successResponse := ⟨200, "{}".toList⟩
  errorResponses := [⟨404, "gone".toList⟩, ⟨410, []⟩]
  examples := [[], "curl".toList]

theorem layout_document_of_agreesBesideCode_unruly :
    List.Forall₂ Endpoint.AgreesBesideCode [unruly, orderly] [orderly, unruly] ∧
      layout (document [unruly, orderly]) = layout (document [orderly, unruly]) := by
  have hfirst : unruly.AgreesBesideCode orderly := by
    constructor <;> decide
  have hsecond : orderly.AgreesBesideCode unruly := by
    constructor <;> decide
  have hall : List.Forall₂ Endpoint.AgreesBesideCode [unruly, orderly] [orderly, unruly] :=
    .cons hfirst (.cons hsecond .nil)
  exact ⟨hall, layout_document_of_agreesBesideCode hall⟩

end Markdown
end EndpointDocs
