import EndpointDocs.Proofs.Block.Marker
import EndpointDocs.Proofs.Block.Outcomes
import EndpointDocs.Proofs.Comment.NormalForm
import EndpointDocs.Proofs.Document.Indentation
import EndpointDocs.Proofs.Section.Content
import EndpointDocs.Proofs.Section.Kinds

/-!
# Code blocks of endpoints that have been read

Plain text has no blanks at the ends of its lines.  A marker leaves an end of it, sections leave
whole lines of that, and their contents end with a line that is not blank.  So contents and examples
of an endpoint that has been read are what indented code keeps: their code blocks, which stand line
by line in the document, say just these texts.
-/

namespace EndpointDocs

/-!
# Lines without blanks at their ends
-/

namespace Text

/-- Whether no line of a text has blanks at its end. -/
def HasTrimmedLines (t : Text) : Prop :=
  ∀ l ∈ lines t, trimEnd l = l

theorem trimEnd_of_append {a b : Text} (h : trimEnd (a ++ b) = a ++ b) : trimEnd b = b := by
  apply trimEnd_eq_self
  intro c hc
  apply not_isBlank_of_trimEnd h
  rw [List.getLast?_append, Option.mem_def.mp hc]
  rfl

theorem HasTrimmedLines.of_append {a b : Text} (h : (a ++ b).HasTrimmedLines) :
    b.HasTrimmedLines := by
  rcases exists_lines_eq_concat a with ⟨before, last, ha⟩
  rcases exists_lines_eq_cons b with ⟨first, after, hb⟩
  rw [HasTrimmedLines, lines_append ha hb] at h
  intro l hl
  rw [hb] at hl
  rcases List.mem_cons.mp hl with hfirst | hafter
  · rw [hfirst]
    exact trimEnd_of_append (h (last ++ first) (by simp))
  · exact h l (by simp [hafter])

end Text

theorem Comment.hasTrimmedLines_plainText (raws : List Text) :
    (plainText raws).HasTrimmedLines := by
  intro l hl
  rw [lines_plainText, List.mem_append, List.mem_singleton] at hl
  rcases hl with hkept | hnil
  · rcases mem_contentLines_of_mem_kept hkept with ⟨raw, -, hmem⟩
    exact trimEnd_of_mem_contentLines hmem
  · rw [hnil]
    rfl

/-!
# Contents of sections
-/

namespace Section

theorem trimEnd_of_mem_content {k : Keyword} {ls : List Text}
    (h : ∀ l ∈ ls, Text.trimEnd l = l) : ∀ l ∈ content k ls, Text.trimEnd l = l := by
  intro l hl
  cases ls with
  | nil =>
      cases hl
  | cons line rest =>
      rcases List.mem_cons.mp (Text.mem_of_mem_trimLines hl) with hfirst | hrest
      · rw [hfirst]
        exact Text.trimEnd_trimEnd _
      · exact h l (List.mem_cons_of_mem line hrest)

theorem areTidy_content {k : Keyword} {ls : List Text} (hplain : ∀ l ∈ ls, '\n' ∉ l)
    (htrimmed : ∀ l ∈ ls, Text.trimEnd l = l) : Markdown.AreTidy (content k ls) := by
  constructor
  · exact lineFeed_not_mem_content hplain
  · exact trimEnd_of_mem_content htrimmed
  · intro l hl hnil
    have hblank := allBlank_getLast_content k ls l hl
    rw [hnil] at hblank
    cases hblank

end Section

namespace Endpoint

/-- The texts of an endpoint that a document shows as code. -/
def codeTexts (e : Endpoint) : List Text :=
  e.successResponse.content :: (e.errorResponses.map Response.content ++ e.examples)

/-- Every content and example is made of the last lines of the content of a section. -/
theorem exists_section_of_mem_codeTexts {name body : Text} {e : Endpoint}
    (h : ofBody name body = .ok e) {t : Text} (ht : t ∈ e.codeTexts) :
    t = [] ∨ ∃ p ∈ Section.pieces Keyword.ofLine? (Text.lines body), ∃ ls,
      ls <:+ Section.content p.1 p.2 ∧ t = Text.unlines ls := by
  have hgathers := (ofBody_eq_ok_iff.mp h).right
  rw [codeTexts, List.mem_cons, List.mem_append] at ht
  rcases ht with hsuccess | herror | hexample
  · have hlast := hgathers.successResponse
    unfold Section.lastOr at hlast
    cases hsections : (Section.ofKind .successResponse
        (Section.pieces Keyword.ofLine? (Text.lines body))).getLast? with
    | none =>
        rw [hsections] at hlast
        injection hlast with hlast
        left
        rw [hsuccess, hlast]
    | some ls =>
        rw [hsections] at hlast
        have hmem := Section.mem_of_mem_ofKind (List.mem_of_getLast? hsections)
        refine Or.inr ⟨_, hmem, _, List.tail_suffix _, ?_⟩
        rw [hsuccess]
        exact Section.content_of_response hlast.symm
  · rcases List.mem_map.mp herror with ⟨r, hr, hcontent⟩
    have hok : Except.ok r ∈ e.errorResponses.map (.ok : Response → Except SectionError Response) :=
      List.mem_map_of_mem hr
    rw [hgathers.errorResponses] at hok
    rcases List.mem_map.mp hok with ⟨ls, hls, hresponse⟩
    refine Or.inr ⟨_, Section.mem_of_mem_ofKind hls, _, List.tail_suffix _, ?_⟩
    rw [← hcontent]
    exact Section.content_of_response hresponse
  · rw [hgathers.examples] at hexample
    rcases List.mem_map.mp hexample with ⟨ls, hls, hprose⟩
    exact Or.inr ⟨_, Section.mem_of_mem_ofKind hls, _, List.suffix_rfl, hprose.symm⟩

theorem exists_tidy_of_mem_codeTexts {name body : Text} {e : Endpoint}
    (hbody : body.HasTrimmedLines) (h : ofBody name body = .ok e) {t : Text}
    (ht : t ∈ e.codeTexts) : ∃ ls, Markdown.AreTidy ls ∧ t = Text.unlines ls := by
  rcases exists_section_of_mem_codeTexts h ht with hnil | ⟨p, hp, ls, hsuffix, hunlines⟩
  · exact ⟨[], ⟨by simp, by simp, by simp⟩, hnil⟩
  · refine ⟨ls, Markdown.AreTidy.of_suffix (Section.areTidy_content ?_ ?_) hsuffix, hunlines⟩
    · intro l hl
      exact Text.lineFeed_not_mem_of_mem_lines (Section.mem_of_mem_piece hp hl)
    · intro l hl
      exact hbody l (Section.mem_of_mem_piece hp hl)

end Endpoint

/-!
# Endpoints that have been read
-/

theorem Block.exists_ofBody_of_outcome {block : List Text} {e : Endpoint}
    (h : outcome block = .documented e) :
    ∃ m, Marker.read? (Comment.plainText block) = some m ∧
      Endpoint.ofBody m.name m.body = .ok e := by
  unfold outcome at h
  split at h
  · cases h
  · next m hm =>
      split at h
      · cases h
      · split at h
        · next endpoint hbody =>
            injection h with h
            exact ⟨m, hm, hbody.trans (congrArg Except.ok h)⟩
        · cases h

/-- All that a document shows as code of an endpoint that has been read is made of tidy lines. -/
theorem Reading.exists_tidy_of_mem_codeTexts {strict : Bool} {groups : List (List Text)}
    {es : List Endpoint} (h : (ofGroups strict groups).result = .ok es) {e : Endpoint}
    (he : e ∈ es) {t : Text} (ht : t ∈ e.codeTexts) :
    ∃ ls, Markdown.AreTidy ls ∧ t = Text.unlines ls := by
  rw [endpoints_of_result h, List.mem_flatMap] at he
  rcases he with ⟨o, ho, hendpoint⟩
  rcases List.mem_map.mp ho with ⟨block, -, houtcome⟩
  rw [Block.Outcome.eq_documented_of_mem hendpoint] at houtcome
  rcases Block.exists_ofBody_of_outcome houtcome with ⟨m, hm, hbody⟩
  have htrimmed := Comment.hasTrimmedLines_plainText block
  rcases Marker.exists_append_body hm with ⟨front, happend⟩
  rw [happend] at htrimmed
  exact Endpoint.exists_tidy_of_mem_codeTexts htrimmed.of_append hbody ht

/-!
# Blocks in a document

Line feeds stand before and behind every code block, so its lines are lines of the document.
-/

namespace Markdown

/-- Whether a block stands between other lines of a document. -/
def Holds (doc block : Text) : Prop :=
  ∃ front back, doc = front ++ '\n' :: (block ++ '\n' :: back)

theorem Holds.append_left {doc block : Text} (h : Holds doc block) (before : Text) :
    Holds (before ++ doc) block := by
  rcases h with ⟨front, back, hdoc⟩
  exact ⟨before ++ front, back, by rw [hdoc, List.append_assoc]⟩

theorem Holds.append_right {doc block : Text} (h : Holds doc block) (behind : Text) :
    Holds (doc ++ behind) block := by
  rcases h with ⟨front, back, hdoc⟩
  exact ⟨front, back ++ behind, by simp [hdoc]⟩

theorem Holds.flatMap {α : Type} {f : α → Text} {x : α} {block : Text} (h : Holds (f x) block)
    {xs : List α} (hx : x ∈ xs) : Holds (xs.flatMap f) block := by
  rcases List.append_of_mem hx with ⟨before, behind, hxs⟩
  rw [hxs, List.flatMap_append, List.flatMap_cons]
  exact (h.append_right _).append_left _

theorem Holds.isInfix {doc block : Text} (h : Holds doc block) :
    Text.lines block <:+: Text.lines doc := by
  rcases h with ⟨front, back, hdoc⟩
  rw [hdoc, Text.lines_append_lineFeed, Text.lines_append_lineFeed, ← List.append_assoc]
  exact List.infix_append _ _ _

theorem holds_paragraph_append (t block rest : Text) :
    Holds (paragraph t ++ (paragraph block ++ rest)) block := by
  refine ⟨t ++ ['\n'], '\n' :: rest, ?_⟩
  simp [paragraph]

theorem holds_response {r : Response} (h : r.content ≠ []) :
    Holds (response r) (indent r.content) := by
  rw [response, if_neg (by simpa using h)]
  simpa only [List.append_nil] using holds_paragraph_append _ (indent r.content) []

theorem holds_errorPart {rs : List Response} {r : Response} (hr : r ∈ rs) (h : r.content ≠ []) :
    Holds (errorPart rs) (indent r.content) := by
  have hne : rs ≠ [] := List.ne_nil_of_mem hr
  rw [errorPart, if_neg (by simpa using hne)]
  exact ((holds_response h).flatMap hr).append_left _

theorem holds_paragraphs (title : Text) {ts : List Text} {t : Text} (ht : t ∈ ts) :
    Holds (paragraph title ++ ts.flatMap fun u => paragraph (indent u)) (indent t) := by
  induction ts generalizing title with
  | nil =>
      cases ht
  | cons u rest ih =>
      rw [List.flatMap_cons]
      rcases List.mem_cons.mp ht with hfirst | hlater
      · rw [hfirst]
        exact holds_paragraph_append title (indent u) _
      · exact (ih (indent u) hlater).append_left _

theorem holds_examplePart {ts : List Text} {t : Text} (ht : t ∈ ts) :
    Holds (examplePart ts) (indent t) := by
  have hne : ts ≠ [] := List.ne_nil_of_mem ht
  rw [examplePart, if_neg (by simpa using hne)]
  exact holds_paragraphs _ ht

theorem holds_endpoint {e : Endpoint} {t : Text} (ht : t ∈ e.codeTexts) (hne : t ≠ []) :
    Holds (endpoint e) (indent t) := by
  have hparts : Holds (response e.successResponse ++
      (errorPart e.errorResponses ++ examplePart e.examples)) (indent t) := by
    rw [Endpoint.codeTexts, List.mem_cons, List.mem_append] at ht
    rcases ht with hsuccess | herror | hexample
    · rw [hsuccess] at hne ⊢
      exact (holds_response hne).append_right _
    · rcases List.mem_map.mp herror with ⟨r, hr, hcontent⟩
      rw [← hcontent] at hne ⊢
      exact ((holds_errorPart hr hne).append_right _).append_left _
    · exact ((holds_examplePart hexample).append_left _).append_left _
  rw [endpoint_eq_parts, List.append_cons]
  exact hparts.append_left _

theorem holds_document {es : List Endpoint} {e : Endpoint} (he : e ∈ es) {t : Text}
    (ht : t ∈ e.codeTexts) (hne : t ≠ []) : Holds (document es) (indent t) := by
  induction es with
  | nil =>
      cases he
  | cons first rest ih =>
      by_cases hrest : rest = []
      · rw [hrest, List.mem_singleton] at he
        rw [hrest, document_singleton, ← he]
        exact holds_endpoint ht hne
      · rw [document_cons first hrest]
        rcases List.mem_cons.mp he with hfirst | hlater
        · rw [← hfirst]
          exact (holds_endpoint ht hne).append_right _
        · rw [List.append_cons, ← List.append_assoc]
          exact (ih hlater).append_left _

/-- The code blocks of endpoints that have been read stand in the document, each of their lines is
empty or indented, and without the indentation they are the contents and examples as read. -/
theorem code_block_says_text {strict : Bool} {groups : List (List Text)} {es : List Endpoint}
    (h : (Reading.ofGroups strict groups).result = .ok es) {e : Endpoint} (he : e ∈ es) {t : Text}
    (ht : t ∈ e.codeTexts) :
    (t ≠ [] → Text.lines (indent t) <:+: Text.lines (document es)) ∧
      (∀ l ∈ Text.lines (indent t), l ≠ [] → codeIndent <+: l) ∧
      outdent (indent t) = t := by
  refine ⟨?_, ?_, ?_⟩
  · intro hne
    exact (holds_document he ht hne).isInfix
  · intro l hl hne
    exact isPrefix_of_mem_lines_indent hl hne
  · rcases Reading.exists_tidy_of_mem_codeTexts h he ht with ⟨ls, htidy, hunlines⟩
    rw [hunlines]
    exact outdent_indent htidy

/-- Comments whose code has blanks at ends of lines and blank lines above and inside. -/
def saveComments : List (List Text) :=
  [["/* apidoc(save): POST /items \n\nSuccess Response 201\n\n    [ \r\n\n    ]\t\n\n*/".toList,
    "// Error Response 404".toList, "//   none \t".toList, "// Example".toList,
    "//   curl /items \\".toList, "//     -d x".toList]]

def save : Endpoint where
  name := "save".toList
  method := "POST".toList
  urlTemplate := "/items".toList
  successResponse := ⟨201, "\n    [\n\n    ]".toList⟩
  errorResponses := [⟨404, "  none".toList⟩]
  examples := ["  curl /items \\\n    -d x".toList]

theorem code_block_says_text_save :
    (Reading.ofGroups true saveComments).result = .ok [save] ∧
      save.successResponse.content ∈ save.codeTexts ∧ save.successResponse.content ≠ [] ∧
      Text.lines (indent save.successResponse.content) <:+: Text.lines (document [save]) ∧
      outdent (indent save.successResponse.content) = save.successResponse.content := by
  have hread : (Reading.ofGroups true saveComments).result = .ok [save] := by
    decide +kernel
  have hmem : save.successResponse.content ∈ save.codeTexts := List.mem_cons_self
  have hne : save.successResponse.content ≠ [] := by
    decide
  rcases code_block_says_text hread List.mem_cons_self hmem with ⟨hstands, -, houtdent⟩
  exact ⟨hread, hmem, hne, hstands hne, houtdent⟩

end Markdown
end EndpointDocs
