import EndpointDocs.Proofs.Section.Keyword
import EndpointDocs.Proofs.Section.Pieces
import EndpointDocs.Proofs.Section.Signature
import EndpointDocs.Proofs.Section.StatusCode

/-!
# Writing endpoints as bodies

An endpoint is written section by section: its request line, the description and the notes if there
are any, its parameters, its responses and its example calls.  Reading the body gives the endpoint
back, whatever its texts are, if no line of them opens a section and no blank lines stand at their
ends.

## Pieces

The written sections are the pieces of the body, so each kind of section is read back on its own and
the endpoint is put together piece by piece.
-/

namespace EndpointDocs

/-- The lines of a text that stands below a heading; an empty text has none. -/
def Text.below (t : Text) : List Text :=
  if t.isEmpty then [] else Text.lines t

namespace Section

/-- The texts that can stand below a line of their section: no line opens another section, and the
last line is not blank. -/
structure IsContent (t : Text) : Prop where
  plain : ∀ l ∈ t.below, Keyword.ofLine? l = none
  last_line : ∀ l ∈ t.below.getLast?, Text.allBlank l = false

/-- The texts that can stand below a bare heading. -/
structure IsProse (t : Text) : Prop extends IsContent t where
  first_line : ∀ l ∈ t.below.head?, Text.allBlank l = false

/-- A section with a bare heading. -/
def writtenProse (k : Keyword) (t : Text) : Keyword × List Text :=
  (k, k.heading :: t.below)

/-- A section with a bare heading, left out if there is no text. -/
def writtenIfAny (k : Keyword) (t : Text) : List (Keyword × List Text) :=
  if t.isEmpty then [] else [writtenProse k t]

def writtenResponse (k : Keyword) (r : Response) : Keyword × List Text :=
  (k, (k.heading ++ ' ' :: Numeral.decimal r.code.toNat) :: r.content.below)

end Section

namespace Parameter

def signature (p : Parameter) : Signature :=
  ⟨p.name, p.required, p.type⟩

/-- The parameters that can be written as a section: the description is one line at most. -/
structure IsWritable (p : Parameter) : Prop where
  signature_writable : p.signature.IsWritable
  type_line : '\n' ∉ p.type
  description_line : '\n' ∉ p.description
  description_content : Section.IsContent p.description

def written (p : Parameter) : Keyword × List Text :=
  (.parameter, (Keyword.parameter.heading ++ ' ' :: p.signature.text) :: p.description.below)

end Parameter

namespace Endpoint

/-- The endpoints that can be written as a body. -/
structure IsWritable (e : Endpoint) : Prop where
  method_verb : ∃ verb : Verb, e.method = verb.text
  url_slash : e.urlTemplate.head? = some '/'
  url_line : '\n' ∉ e.urlTemplate
  url_trimmed : Text.trimEnd e.urlTemplate = e.urlTemplate
  no_dataParams : e.dataParams = []
  params_writable : ∀ p ∈ e.urlParams, p.IsWritable
  description_prose : Section.IsProse e.description
  notes_prose : Section.IsProse e.notes
  examples_prose : ∀ t ∈ e.examples, Section.IsProse t
  success_content : Section.IsContent e.successResponse.content
  errors_content : ∀ r ∈ e.errorResponses, Section.IsContent r.content

def writtenRequest (e : Endpoint) : Keyword × List Text :=
  (.method, [e.method ++ ' ' :: e.urlTemplate])

def written (e : Endpoint) : List (Keyword × List Text) :=
  e.writtenRequest :: (Section.writtenIfAny .description e.description ++
    (Section.writtenIfAny .notes e.notes ++ (e.urlParams.map Parameter.written ++
      Section.writtenResponse .successResponse e.successResponse ::
        (e.errorResponses.map (Section.writtenResponse .errorResponse) ++
          e.examples.map (Section.writtenProse .exampleCall)))))

def writtenBody (e : Endpoint) : Text :=
  Text.unlines (e.written.flatMap Prod.snd)

end Endpoint

/-!
# Deciding what can be written
-/

namespace Section

instance (t : Text) : Decidable (IsContent t) :=
  decidable_of_iff ((∀ l ∈ t.below, Keyword.ofLine? l = none) ∧
    ∀ l ∈ t.below.getLast?, Text.allBlank l = false)
    ⟨fun h => ⟨h.left, h.right⟩, fun h => ⟨h.plain, h.last_line⟩⟩

instance (t : Text) : Decidable (IsProse t) :=
  decidable_of_iff (IsContent t ∧ ∀ l ∈ t.below.head?, Text.allBlank l = false)
    ⟨fun h => ⟨h.left, h.right⟩, fun h => ⟨h.toIsContent, h.first_line⟩⟩

end Section

instance (p : Parameter) : Decidable p.IsWritable :=
  decidable_of_iff (p.signature.IsWritable ∧ '\n' ∉ p.type ∧ '\n' ∉ p.description ∧
    Section.IsContent p.description)
    ⟨fun ⟨hsignature, htype, hline, hcontent⟩ => ⟨hsignature, htype, hline, hcontent⟩,
      fun ⟨hsignature, htype, hline, hcontent⟩ => ⟨hsignature, htype, hline, hcontent⟩⟩

/-!
# Lines below a heading
-/

namespace Text

theorem unlines_below (t : Text) : unlines t.below = t := by
  cases t with
  | nil =>
      rfl
  | cons c rest =>
      exact unlines_lines (c :: rest)

theorem below_unlines {ls : List Text} (hlines : ∀ l ∈ ls, '\n' ∉ l)
    (hlast : ∀ l ∈ ls.getLast?, allBlank l = false) : (unlines ls).below = ls := by
  cases hls : ls with
  | nil =>
      rfl
  | cons l rest =>
      have hblank : allBlank (unlines ls) = false := by
        rw [allBlank_unlines, List.all_eq_false]
        have hne : ls ≠ [] := by
          simp [hls]
        refine ⟨ls.getLast hne, List.getLast_mem hne, ?_⟩
        rw [hlast _ (List.getLast?_eq_some_getLast hne)]
        exact Bool.false_ne_true
      have hne : (unlines ls).isEmpty = false := by
        cases ht : unlines ls with
        | nil =>
            rw [ht] at hblank
            cases hblank
        | cons c later =>
            rfl
      rw [← hls, below, hne]
      exact lines_unlines hlines (by simp [hls])

theorem lineFeed_not_mem_of_mem_below {t l : Text} (h : l ∈ t.below) : '\n' ∉ l := by
  cases t with
  | nil =>
      cases h
  | cons c rest =>
      exact lineFeed_not_mem_of_mem_lines h

theorem unwords_below {t : Text} (h : '\n' ∉ t) : unwords t.below = t := by
  cases t with
  | nil =>
      rfl
  | cons c rest =>
      have hline : below (c :: rest) = [c :: rest] := lines_eq_singleton h
      rw [hline, unwords_singleton]

end Text

/-!
# Reading one section back
-/

namespace Section

theorem prose_writtenProse (k : Keyword) {t : Text} (h : IsProse t) :
    prose k (writtenProse k t).2 = t := by
  rw [writtenProse, prose, content_heading, Text.trimLines_eq_self h.first_line h.last_line,
    Text.unlines_below]

theorem response_writtenResponse (k : Keyword) {r : Response} (h : IsContent r.content) :
    response k (writtenResponse k r).2 = .ok r := by
  rw [writtenResponse, response_heading_append k r.code h.last_line, Text.unlines_below]

theorem parameter?_written {p : Parameter} (h : p.IsWritable) :
    parameter? p.written.2 = some p := by
  have hcontent : content .parameter p.written.2 = p.signature.text :: p.description.below :=
    content_heading_append .parameter (Signature.allBlank_text h.signature_writable)
      (Signature.trim_text h.signature_writable) h.description_content.last_line
  rw [parameter?, hcontent]
  simp only [Signature.trim_text h.signature_writable, Signature.read?_text h.signature_writable,
    Option.map_some, Text.unwords_below h.description_line]
  rfl

end Section

/-!
# Written sections as pieces
-/

namespace Section

theorem isPiece_writtenProse {k : Keyword} (hk : k ≠ .method) {t : Text} (h : IsContent t) :
    IsPiece Keyword.ofLine? (writtenProse k t) := by
  have hheading : Keyword.ofLine? k.heading = some k := by
    simpa using Keyword.ofLine?_heading hk []
  exact ⟨k.heading, t.below, rfl, hheading, h.plain⟩

theorem isPiece_writtenIfAny {k : Keyword} (hk : k ≠ .method) {t : Text} (h : IsContent t) :
    ∀ piece ∈ writtenIfAny k t, IsPiece Keyword.ofLine? piece := by
  intro piece hpiece
  unfold writtenIfAny at hpiece
  split at hpiece
  · cases hpiece
  · rw [List.mem_singleton.mp hpiece]
    exact isPiece_writtenProse hk h

theorem isPiece_writtenResponse {k : Keyword} (hk : k ≠ .method) {r : Response}
    (h : IsContent r.content) : IsPiece Keyword.ofLine? (writtenResponse k r) :=
  ⟨_, r.content.below, rfl, Keyword.ofLine?_heading hk _, h.plain⟩

theorem isPiece_parameter {p : Parameter} (h : p.IsWritable) :
    IsPiece Keyword.ofLine? p.written :=
  ⟨_, p.description.below, rfl, Keyword.ofLine?_heading (by decide) _, h.description_content.plain⟩

end Section

namespace Endpoint

theorem isPiece_writtenRequest {e : Endpoint} (h : e.IsWritable) :
    Section.IsPiece Keyword.ofLine? e.writtenRequest := by
  rcases h.method_verb with ⟨verb, hverb⟩
  have hline : Keyword.ofLine? (e.method ++ ' ' :: e.urlTemplate) = some .method := by
    rw [hverb]
    exact Keyword.ofLine?_request verb h.url_slash h.url_line h.url_trimmed
  refine ⟨_, [], rfl, hline, ?_⟩
  intro l hl
  cases hl

theorem isPiece_written {e : Endpoint} (h : e.IsWritable) :
    ∀ piece ∈ e.written, Section.IsPiece Keyword.ofLine? piece := by
  intro piece hpiece
  simp only [written, List.mem_cons, List.mem_append, List.mem_map] at hpiece
  rcases hpiece with rfl | hdescription | hnotes | ⟨p, hp, rfl⟩ | rfl | ⟨r, hr, rfl⟩ | ⟨t, ht, rfl⟩
  · exact isPiece_writtenRequest h
  · exact Section.isPiece_writtenIfAny (by decide) h.description_prose.toIsContent _ hdescription
  · exact Section.isPiece_writtenIfAny (by decide) h.notes_prose.toIsContent _ hnotes
  · exact Section.isPiece_parameter (h.params_writable p hp)
  · exact Section.isPiece_writtenResponse (by decide) h.success_content
  · exact Section.isPiece_writtenResponse (by decide) (h.errors_content r hr)
  · exact Section.isPiece_writtenProse (by decide) (h.examples_prose t ht).toIsContent

end Endpoint

/-!
# Written sections as lines
-/

theorem Keyword.lineFeed_not_mem_heading (k : Keyword) : '\n' ∉ k.heading := by
  cases k <;> decide

namespace Section

theorem lineFeed_not_mem_writtenProse {k : Keyword} {t l : Text} (h : l ∈ (writtenProse k t).2) :
    '\n' ∉ l := by
  rcases List.mem_cons.mp h with rfl | hbelow
  · exact k.lineFeed_not_mem_heading
  · exact Text.lineFeed_not_mem_of_mem_below hbelow

theorem lineFeed_not_mem_writtenIfAny {k : Keyword} {t l : Text}
    {piece : Keyword × List Text} (hpiece : piece ∈ writtenIfAny k t) (h : l ∈ piece.2) :
    '\n' ∉ l := by
  unfold writtenIfAny at hpiece
  split at hpiece
  · cases hpiece
  · rw [List.mem_singleton.mp hpiece] at h
    exact lineFeed_not_mem_writtenProse h

theorem lineFeed_not_mem_heading_append (k : Keyword) {first : Text} (hfirst : '\n' ∉ first)
    {t l : Text} (h : l ∈ (k.heading ++ ' ' :: first) :: t.below) : '\n' ∉ l := by
  rcases List.mem_cons.mp h with rfl | hbelow
  · rw [List.mem_append, List.mem_cons]
    rintro (hheading | hspace | hmem)
    · exact k.lineFeed_not_mem_heading hheading
    · exact absurd hspace (by decide)
    · exact hfirst hmem
  · exact Text.lineFeed_not_mem_of_mem_below hbelow

end Section

namespace Endpoint

theorem lineFeed_not_mem_writtenRequest {e : Endpoint} (h : e.IsWritable) {l : Text}
    (hl : l ∈ e.writtenRequest.2) : '\n' ∉ l := by
  rcases h.method_verb with ⟨verb, hverb⟩
  have hmethod : '\n' ∉ verb.text := by
    cases verb <;> decide
  rw [List.mem_singleton.mp hl, hverb, List.mem_append, List.mem_cons]
  rintro (hmem | hspace | hmem)
  · exact hmethod hmem
  · exact absurd hspace (by decide)
  · exact h.url_line hmem

theorem lineFeed_not_mem_written {e : Endpoint} (h : e.IsWritable) {l : Text}
    (hl : l ∈ e.written.flatMap Prod.snd) : '\n' ∉ l := by
  rcases List.mem_flatMap.mp hl with ⟨piece, hpiece, hmem⟩
  simp only [written, List.mem_cons, List.mem_append, List.mem_map] at hpiece
  rcases hpiece with rfl | hdescription | hnotes | ⟨p, hp, rfl⟩ | rfl | ⟨r, -, rfl⟩ | ⟨t, -, rfl⟩
  · exact lineFeed_not_mem_writtenRequest h hmem
  · exact Section.lineFeed_not_mem_writtenIfAny hdescription hmem
  · exact Section.lineFeed_not_mem_writtenIfAny hnotes hmem
  · have hsignature : '\n' ∉ p.signature.text :=
      Signature.lineFeed_not_mem_text (h.params_writable p hp).signature_writable
        (h.params_writable p hp).type_line
    exact Section.lineFeed_not_mem_heading_append .parameter hsignature hmem
  · exact Section.lineFeed_not_mem_heading_append .successResponse
      (Numeral.lineFeed_not_mem_decimal _) hmem
  · exact Section.lineFeed_not_mem_heading_append .errorResponse
      (Numeral.lineFeed_not_mem_decimal _) hmem
  · exact Section.lineFeed_not_mem_writtenProse hmem

theorem pieces_writtenBody {e : Endpoint} (h : e.IsWritable) :
    Section.pieces Keyword.ofLine? (Text.lines e.writtenBody) = e.written := by
  have hlines : Text.lines e.writtenBody = e.written.flatMap Prod.snd :=
    Text.lines_unlines (fun l hl => lineFeed_not_mem_written h hl)
      (by simp [written, writtenRequest])
  rw [hlines]
  exact Section.pieces_flatMap (isPiece_written h)

/-!
# Putting the endpoint together
-/

theorem withPieces_writtenRequest {e : Endpoint} (h : e.IsWritable) (before : Endpoint)
    (rest : List (Keyword × List Text)) :
    before.withPieces (e.writtenRequest :: rest) =
      { before with method := e.method, urlTemplate := e.urlTemplate }.withPieces rest := by
  rcases h.method_verb with ⟨verb, hverb⟩
  apply withPieces_cons_of_ok
  rw [writtenRequest, withSection, withRequest, hverb, List.head?_cons, Option.bind_some,
    RequestLine.find?_written verb h.url_slash h.url_line h.url_trimmed]

theorem withPieces_writtenIfAny {k : Keyword} (holding : Text → Endpoint) {t : Text}
    (h : (holding []).withSection k (Section.writtenProse k t).2 = .ok (holding t))
    (rest : List (Keyword × List Text)) :
    (holding []).withPieces (Section.writtenIfAny k t ++ rest) = (holding t).withPieces rest := by
  cases t with
  | nil =>
      rfl
  | cons c later =>
      exact withPieces_cons_of_ok h rest

theorem withPieces_writtenDescription (before : Endpoint) {t : Text} (h : Section.IsProse t)
    (rest : List (Keyword × List Text)) :
    { before with description := [] }.withPieces (Section.writtenIfAny .description t ++ rest) =
      { before with description := t }.withPieces rest := by
  apply withPieces_writtenIfAny fun d => { before with description := d }
  change Except.ok _ = _
  rw [Section.prose_writtenProse .description h]

theorem withPieces_writtenNotes (before : Endpoint) {t : Text} (h : Section.IsProse t)
    (rest : List (Keyword × List Text)) :
    { before with notes := [] }.withPieces (Section.writtenIfAny .notes t ++ rest) =
      { before with notes := t }.withPieces rest := by
  apply withPieces_writtenIfAny fun n => { before with notes := n }
  change Except.ok _ = _
  rw [Section.prose_writtenProse .notes h]

/-- Sections that each add an entry to a list of the endpoint add them all, in order. -/
theorem withPieces_map_append {α : Type} {holding : List α → Endpoint}
    {sectionOf : α → Keyword × List Text} {as : List α}
    (h : ∀ a ∈ as, ∀ front, (holding front).withSection (sectionOf a).1 (sectionOf a).2 =
      .ok (holding (front ++ [a])))
    (front : List α) (rest : List (Keyword × List Text)) :
    (holding front).withPieces (as.map sectionOf ++ rest) =
      (holding (front ++ as)).withPieces rest := by
  induction as generalizing front with
  | nil =>
      rw [List.append_nil]
      rfl
  | cons a later ih =>
      have hfirst := h a (by simp) front
      rw [List.map_cons, List.cons_append, withPieces_cons_of_ok hfirst,
        ih (fun b hb => h b (by simp [hb])), List.append_assoc, List.singleton_append]

theorem withPieces_parameters (before : Endpoint) {ps : List Parameter}
    (h : ∀ p ∈ ps, p.IsWritable) (rest : List (Keyword × List Text)) :
    before.withPieces (ps.map Parameter.written ++ rest) =
      { before with urlParams := before.urlParams ++ ps }.withPieces rest := by
  have hentry : ∀ p ∈ ps, ∀ front, ({ before with urlParams := front } : Endpoint).withSection
      p.written.1 p.written.2 = .ok { before with urlParams := front ++ [p] } := by
    intro p hp front
    change Endpoint.withSection _ .parameter p.written.2 = _
    rw [withSection, Section.parameter?_written (h p hp)]
  exact withPieces_map_append hentry before.urlParams rest

theorem withPieces_success (before : Endpoint) {r : Response} (h : Section.IsContent r.content)
    (rest : List (Keyword × List Text)) :
    before.withPieces (Section.writtenResponse .successResponse r :: rest) =
      { before with successResponse := r }.withPieces rest := by
  apply withPieces_cons_of_ok
  change Endpoint.withSection _ .successResponse _ = _
  rw [withSection, Section.response_writtenResponse .successResponse h]

theorem withPieces_errors (before : Endpoint) {rs : List Response}
    (h : ∀ r ∈ rs, Section.IsContent r.content) (rest : List (Keyword × List Text)) :
    before.withPieces (rs.map (Section.writtenResponse .errorResponse) ++ rest) =
      { before with errorResponses := before.errorResponses ++ rs }.withPieces rest := by
  have hentry : ∀ r ∈ rs, ∀ front, ({ before with errorResponses := front } : Endpoint).withSection
      (Section.writtenResponse .errorResponse r).1 (Section.writtenResponse .errorResponse r).2 =
        .ok { before with errorResponses := front ++ [r] } := by
    intro r hr front
    change Endpoint.withSection _ .errorResponse _ = _
    rw [withSection, Section.response_writtenResponse .errorResponse (h r hr)]
  exact withPieces_map_append hentry before.errorResponses rest

theorem withPieces_examples (before : Endpoint) {ts : List Text} (h : ∀ t ∈ ts, Section.IsProse t) :
    before.withPieces (ts.map (Section.writtenProse .exampleCall)) =
      .ok { before with examples := before.examples ++ ts } := by
  have hentry : ∀ t ∈ ts, ∀ front, ({ before with examples := front } : Endpoint).withSection
      (Section.writtenProse .exampleCall t).1 (Section.writtenProse .exampleCall t).2 =
        .ok { before with examples := front ++ [t] } := by
    intro t ht front
    change Except.ok _ = _
    rw [Section.prose_writtenProse .exampleCall (h t ht)]
  simpa [withPieces] using withPieces_map_append hentry before.examples []

theorem ofBody_writtenBody {e : Endpoint} (h : e.IsWritable) :
    ofBody e.name e.writtenBody = .ok e := by
  have hdescription := withPieces_writtenDescription
    { name := e.name, method := e.method, urlTemplate := e.urlTemplate } h.description_prose
  have hnotes := withPieces_writtenNotes
    { name := e.name, method := e.method, urlTemplate := e.urlTemplate,
      description := e.description } h.notes_prose
  rw [ofBody_eq_withPieces, pieces_writtenBody h, written, withPieces_writtenRequest h,
    hdescription, hnotes, withPieces_parameters _ h.params_writable,
    withPieces_success _ h.success_content, withPieces_errors _ h.errors_content,
    withPieces_examples _ h.examples_prose]
  rcases e with
    ⟨name, description, method, url, params, dataParams, success, errors, examples, notes⟩
  have hdata : dataParams = [] := h.no_dataParams
  rw [hdata]
  rfl

/-- The documentation of an operation that creates a key, with every kind of section. -/
def keyCreation : Endpoint where
  name := "keys".toList
  description := "Creates a key.\n\n  A key belongs to a user.".toList
  method := "POST".toList
  urlTemplate := "/v1/users/:user/keys/:key".toList
  urlParams :=
    [⟨"user".toList, true, "string".toList, "Owner of the key.".toList⟩,
     ⟨"key".toList, true, [], []⟩,
     ⟨"key-kind".toList, false, "one of two".toList, "  Kind of the key".toList⟩]
  successResponse := ⟨201, "\n\x7b \"created\": true \x7d".toList⟩
  errorResponses := [⟨400, []⟩, ⟨65535, "\x7b \"error\": \"exists\" \x7d".toList⟩]
  examples := ["    curl -X POST https://host/v1/users/u/keys/k".toList, []]
  notes := "Keys expire after 30 days.".toList

theorem isWritable_keyCreation : keyCreation.IsWritable where
  method_verb := ⟨.post, rfl⟩
  url_slash := rfl
  url_line := by decide
  url_trimmed := by decide
  no_dataParams := rfl
  params_writable := by decide +kernel
  description_prose := by decide +kernel
  notes_prose := by decide +kernel
  examples_prose := by decide +kernel
  success_content := by decide +kernel
  errors_content := by decide +kernel

theorem ofBody_writtenBody_keyCreation :
    keyCreation.IsWritable ∧ ofBody keyCreation.name keyCreation.writtenBody = .ok keyCreation :=
  ⟨isWritable_keyCreation, ofBody_writtenBody isWritable_keyCreation⟩

end Endpoint
end EndpointDocs
