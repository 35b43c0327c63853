import EndpointDocs.Proofs.Endpoint.FirstProblem
import EndpointDocs.Proofs.Section.Kinds
import EndpointDocs.Proofs.Section.Writing

/-!
# Well-formed endpoints

Whatever a body holds, the endpoint that it documents is well formed: the verb and the URL are given
together, parameters have proper names and types, and no text of several lines has a blank line at
an end that sections trim.  Each kind of section sets or adds to one field, so it has to be checked
for that field only, and then going through the sections of a body keeps the endpoint well formed.

## Problems

A well-formed endpoint with a verb has a URL.  The names of its parameters are made of name
characters, so it documents no URL parameter with another name.
-/

namespace EndpointDocs

namespace Text

/-- Whether a text is empty or has a first line that is not blank. -/
def StartsFilled (t : Text) : Prop :=
  ∀ l ∈ t.below.head?, allBlank l = false

/-- Whether a text is empty or has a last line that is not blank. -/
def EndsFilled (t : Text) : Prop :=
  ∀ l ∈ t.below.getLast?, allBlank l = false

theorem endsFilled_unlines {ls : List Text} (hlines : ∀ l ∈ ls, '\n' ∉ l)
    (hlast : ∀ l ∈ ls.getLast?, allBlank l = false) : (unlines ls).EndsFilled := by
  unfold EndsFilled
  rw [below_unlines hlines hlast]
  exact hlast

end Text

/-!
# One section
-/

namespace Section

theorem filled_prose (k : Keyword) {ls : List Text} (h : ∀ l ∈ ls, '\n' ∉ l) :
    (prose k ls).StartsFilled ∧ (prose k ls).EndsFilled := by
  have hlast := allBlank_getLast_content k ls
  have hbelow := Text.below_unlines (lineFeed_not_mem_content (k := k) h) hlast
  unfold Text.StartsFilled Text.EndsFilled prose
  rw [hbelow]
  exact ⟨allBlank_head_content k ls, hlast⟩

theorem endsFilled_response {k : Keyword} {ls : List Text} (h : ∀ l ∈ ls, '\n' ∉ l) {r : Response}
    (hr : response k ls = .ok r) : r.content.EndsFilled := by
  rw [content_of_response hr]
  apply Text.endsFilled_unlines
  · intro l hl
    exact lineFeed_not_mem_content h l (List.mem_of_mem_tail hl)
  · intro l hl
    apply allBlank_getLast_content k ls
    cases hcontent : content k ls with
    | nil =>
        rw [hcontent] at hl
        cases hl
    | cons code rest =>
        rw [hcontent, List.tail_cons] at hl
        rw [List.getLast?_cons, Option.mem_def.mp hl]
        rfl

theorem isWritable_of_parameter? {ls : List Text} {p : Parameter} (h : parameter? ls = some p) :
    p.signature.IsWritable := by
  unfold parameter? at h
  split at h
  · cases h
  · rcases Option.map_eq_some_iff.mp h with ⟨s, hs, rfl⟩
    exact Signature.isWritable_of_read? (Text.trim_trim _) hs

end Section

/-!
# All sections
-/

namespace Endpoint

/-- What every endpoint that a body documents is like. -/
structure IsWellFormed (e : Endpoint) : Prop where
  request : (e.method = [] ∧ e.urlTemplate = []) ∨
    ((∃ verb : Verb, e.method = verb.text) ∧ RequestLine.IsUrl e.urlTemplate)
  urlParams : ∀ p ∈ e.urlParams, p.signature.IsWritable
  description : e.description.StartsFilled ∧ e.description.EndsFilled
  notes : e.notes.StartsFilled ∧ e.notes.EndsFilled
  examples : ∀ t ∈ e.examples, t.StartsFilled ∧ t.EndsFilled
  successResponse : e.successResponse.content.EndsFilled
  errorResponses : ∀ r ∈ e.errorResponses, r.content.EndsFilled
  dataParams : e.dataParams = []

namespace IsWellFormed

theorem ofName (name : Text) : ({ name } : Endpoint).IsWellFormed := by
  constructor <;> simp [Text.StartsFilled, Text.EndsFilled, Text.below]

theorem withRequest {e : Endpoint} (h : e.IsWellFormed) (ls : List Text) :
    (e.withRequest ls).IsWellFormed := by
  unfold Endpoint.withRequest
  split
  · next r hr =>
      rcases Option.bind_eq_some_iff.mp hr with ⟨line, -, hfind⟩
      have hurl := RequestLine.isUrl_of_find? hfind
      exact { h with request := Or.inr ⟨⟨r.verb, rfl⟩, hurl⟩ }
  · exact h

theorem withSection {e e' : Endpoint} (h : e.IsWellFormed) {k : Keyword} {ls : List Text}
    (hlines : ∀ l ∈ ls, '\n' ∉ l) (he : e.withSection k ls = .ok e') : e'.IsWellFormed := by
  unfold Endpoint.withSection at he
  cases k with
  | method =>
      injection he with he
      rw [← he]
      exact h.withRequest ls
  | description =>
      injection he with he
      rw [← he]
      exact { h with description := Section.filled_prose .description hlines }
  | notes =>
      injection he with he
      rw [← he]
      exact { h with notes := Section.filled_prose .notes hlines }
  | exampleCall =>
      injection he with he
      rw [← he]
      have hprose := Section.filled_prose .exampleCall hlines
      exact { h with
        examples := List.forall_mem_append.mpr ⟨h.examples, List.forall_mem_singleton.mpr hprose⟩ }
  | parameter =>
      cases hp : Section.parameter? ls with
      | none =>
          simp only [hp] at he
          injection he with he
          rw [← he]
          exact h
      | some p =>
          simp only [hp] at he
          injection he with he
          rw [← he]
          have hwritable := Section.isWritable_of_parameter? hp
          exact { h with
            urlParams :=
              List.forall_mem_append.mpr ⟨h.urlParams, List.forall_mem_singleton.mpr hwritable⟩ }
  | successResponse =>
      cases hr : Section.response .successResponse ls with
      | error problem =>
          simp [hr] at he
      | ok r =>
          simp only [hr] at he
          injection he with he
          rw [← he]
          exact { h with successResponse := Section.endsFilled_response hlines hr }
  | errorResponse =>
      cases hr : Section.response .errorResponse ls with
      | error problem =>
          simp [hr] at he
      | ok r =>
          simp only [hr] at he
          injection he with he
          rw [← he]
          have hfilled := Section.endsFilled_response hlines hr
          exact { h with
            errorResponses :=
              List.forall_mem_append.mpr ⟨h.errorResponses, List.forall_mem_singleton.mpr hfilled⟩ }

theorem withPieces {e e' : Endpoint} (h : e.IsWellFormed) {ps : List (Keyword × List Text)}
    (hlines : ∀ p ∈ ps, ∀ l ∈ p.2, '\n' ∉ l) (he : e.withPieces ps = .ok e') :
    e'.IsWellFormed := by
  induction ps generalizing e with
  | nil =>
      injection he with he
      rw [← he]
      exact h
  | cons p rest ih =>
      rw [Endpoint.withPieces] at he
      cases hp : e.withSection p.1 p.2 with
      | error problem =>
          simp [hp] at he
      | ok next =>
          simp only [hp] at he
          apply ih (h.withSection (hlines p List.mem_cons_self) hp)
          · intro q hq
            exact hlines q (List.mem_cons_of_mem p hq)
          · exact he

theorem ofBody {name body : Text} {e : Endpoint} (h : Endpoint.ofBody name body = .ok e) :
    e.IsWellFormed := by
  rw [ofBody_eq_withPieces] at h
  refine (ofName name).withPieces ?_ h
  intro p hp l hl
  exact Text.lineFeed_not_mem_of_mem_lines (Section.mem_of_mem_piece hp hl)

/-!
# Problems of well-formed endpoints
-/

theorem problem?_ne_missingUrl {e : Endpoint} (h : e.IsWellFormed) :
    e.problem? ≠ some .missingUrl := by
  intro hproblem
  rcases problem?_eq_missingUrl_iff.mp hproblem with ⟨hmethod, hempty⟩
  rcases h.request with ⟨hnil, -⟩ | ⟨-, hurl⟩
  · exact hmethod hnil
  · have hslash := hurl.slash
    rw [hempty] at hslash
    cases hslash

theorem documents_eq_false {e : Endpoint} (h : e.IsWellFormed) {name : Text}
    (hname : name = [] ∨ ∃ c ∈ name, Signature.isNameChar c = false) : e.documents name = false := by
  rw [documents, List.any_eq_false]
  intro p hp heq
  have hwritable := h.urlParams p hp
  have hsame : p.signature.name = name := beq_iff_eq.mp heq
  rcases hname with hnil | ⟨c, hc, hchar⟩
  · exact hwritable.name_ne_nil (hsame.trans hnil)
  · rw [← hsame] at hc
    rw [hwritable.name_chars c hc] at hchar
    cases hchar

end IsWellFormed

/-- An endpoint has no verb if no line of its body has a request. -/
theorem method_ofBody_eq_nil_iff {name body : Text} {e : Endpoint}
    (h : ofBody name body = .ok e) :
    e.method = [] ↔ ∀ l ∈ Text.lines body, Keyword.ofLine? l ≠ some .method := by
  have hrequest := (ofBody_eq_ok_iff.mp h).right.request
  unfold Section.lastOr at hrequest
  rw [← Section.ofKind_pieces_eq_nil_iff]
  cases hlast : (Section.ofKind .method
      (Section.pieces Keyword.ofLine? (Text.lines body))).getLast? with
  | none =>
      rw [hlast] at hrequest
      injection hrequest with hpair
      injection hpair with hmethod _
      exact iff_of_true hmethod (List.getLast?_eq_none_iff.mp hlast)
  | some ls =>
      rw [hlast] at hrequest
      rcases Option.map_eq_some_iff.mp hrequest.symm with ⟨r, -, hr⟩
      injection hr with hmethod _
      apply iff_of_false
      · rw [← hmethod]
        cases r.verb <;> exact List.cons_ne_nil _ _
      · intro hnil
        rw [hnil] at hlast
        cases hlast

/-- Whatever a body holds, its endpoint is well formed.  It lacks the URL only together with the
verb, the verb only if no line has a request, and the documentation of every URL parameter whose
name could not be written in a parameter section. -/
theorem well_formed_and_diagnosed {name body : Text} {e : Endpoint}
    (h : ofBody name body = .ok e) :
    e.IsWellFormed ∧
    e.problem? ≠ some .missingUrl ∧
    (e.problem? = some .missingMethod ↔
      ∀ l ∈ Text.lines body, Keyword.ofLine? l ≠ some .method) ∧
    ∀ parameter, ':' :: parameter ∈ List.splitOn '/' e.urlTemplate →
      (parameter = [] ∨ ∃ c ∈ parameter, Signature.isNameChar c = false) → e.problem? ≠ none := by
  have hformed := IsWellFormed.ofBody h
  refine ⟨hformed, hformed.problem?_ne_missingUrl, ?_, ?_⟩
  · rw [problem?_eq_missingMethod_iff]
    exact method_ofBody_eq_nil_iff h
  · intro parameter hsegment hname
    exact problem?_ne_none_of_undocumented (mem_urlParameters_iff.mpr hsegment)
      (hformed.documents_eq_false hname)

/-- A body with a URL parameter that no parameter section can name. -/
def userFileBody : Text :=
  "GET /users/:user/files/:file.txt \n\nParameter user, required, string\nExample\n\n  curl /x\n".toList

def userFile : Endpoint where
  name := "file".toList
  method := "GET".toList
  urlTemplate := "/users/:user/files/:file.txt".toList
  urlParams := [⟨"user".toList, true, "string".toList, []⟩]
  examples := ["  curl /x".toList]

theorem well_formed_and_diagnosed_userFile :
    ofBody "file".toList userFileBody = .ok userFile ∧ userFile.IsWellFormed ∧
      userFile.problem? ≠ none := by
  have hbody : ofBody "file".toList userFileBody = .ok userFile := by
    decide +kernel
  have hsegment : ':' :: "file.txt".toList ∈ List.splitOn '/' userFile.urlTemplate := by
    decide +kernel
  rcases well_formed_and_diagnosed hbody with ⟨hformed, -, -, hproblem⟩
  refine ⟨hbody, hformed, hproblem _ hsegment (Or.inr ⟨'.', ?_, ?_⟩)⟩
  · decide
  · decide

end Endpoint
end EndpointDocs
