import EndpointDocs.Document.Markdown
import EndpointDocs.Proofs.Text.Ends
import EndpointDocs.Proofs.Text.Lines

/-!
# Indented code

Every line of code stands in a document either empty or behind four spaces.  A text whose lines have
no blanks at their ends, the last of them not empty, is what is left of its code block without these
spaces.  On other texts ends of lines may be lost, since a line of code does not hold what ends it.

## Parts

What a document says about an endpoint up to the success response holds no code.
-/

namespace EndpointDocs
namespace Markdown

def codeIndent : Text :=
  "    ".toList

/-- A line of a code block without the spaces before it. -/
def withoutIndent (line : Text) : Text :=
  (Text.after? codeIndent line).getD line

def outdent (block : Text) : Text :=
  Text.unlines ((Text.lines block).map withoutIndent)

/-- Lines of which indented code loses nothing. -/
structure AreTidy (ls : List Text) : Prop where
  plain : ∀ l ∈ ls, '\n' ∉ l
  trimmed : ∀ l ∈ ls, Text.trimEnd l = l
  last : ∀ l ∈ ls.getLast?, l ≠ []

theorem AreTidy.of_suffix {ls ms : List Text} (h : AreTidy ls) (hsuffix : ms <:+ ls) :
    AreTidy ms := by
  constructor
  · intro l hl
    exact h.plain l (hsuffix.subset hl)
  · intro l hl
    exact h.trimmed l (hsuffix.subset hl)
  · intro l hl
    rcases hsuffix with ⟨front, rfl⟩
    apply h.last
    rw [List.getLast?_append, Option.mem_def.mp hl]
    rfl

/-!
# Lines of code
-/

theorem withoutReturn_eq_self {line : Text} (h : Text.trimEnd line = line) :
    withoutReturn line = line := by
  unfold withoutReturn
  split
  · next rest hreverse =>
      have hlast : line.getLast? = some '\r' := by
        rw [← List.head?_reverse, hreverse, List.head?_cons]
      have hblank := Text.not_isBlank_of_trimEnd h '\r' hlast
      exact absurd hblank (by decide)
  · rfl

theorem mem_of_mem_withoutReturn {line : Text} {c : Char} (h : c ∈ withoutReturn line) :
    c ∈ line := by
  unfold withoutReturn at h
  split at h
  · next rest hreverse =>
      rw [← List.mem_reverse, hreverse]
      exact List.mem_cons_of_mem _ (List.mem_reverse.mp h)
  · exact h

theorem lineFeed_not_mem_codeLinesOf {ls : List Text} (h : ∀ l ∈ ls, '\n' ∉ l) :
    ∀ l ∈ codeLinesOf ls, '\n' ∉ l := by
  induction ls with
  | nil =>
      simp [codeLinesOf]
  | cons line rest ih =>
      intro l hl
      cases rest with
      | nil =>
          cases line with
          | nil =>
              cases hl
          | cons c later =>
              exact h l hl
      | cons next later =>
          rw [codeLinesOf] at hl
          · rcases List.mem_cons.mp hl with rfl | hlater
            · intro hfeed
              exact h line List.mem_cons_self (mem_of_mem_withoutReturn hfeed)
            · exact ih (fun m hm => h m (List.mem_cons_of_mem line hm)) l hlater
          · simp

theorem lineFeed_not_mem_codeLines {t : Text} : ∀ l ∈ codeLines t, '\n' ∉ l :=
  lineFeed_not_mem_codeLinesOf fun _ hl => Text.lineFeed_not_mem_of_mem_lines hl

theorem codeLinesOf_eq_self {ls : List Text} (htrimmed : ∀ l ∈ ls, Text.trimEnd l = l)
    (hlast : ∀ l ∈ ls.getLast?, l ≠ []) : codeLinesOf ls = ls := by
  induction ls with
  | nil =>
      rfl
  | cons line rest ih =>
      cases rest with
      | nil =>
          cases line with
          | nil =>
              exact absurd rfl (hlast [] rfl)
          | cons c later =>
              rfl
      | cons next later =>
          rw [codeLinesOf, withoutReturn_eq_self (htrimmed line List.mem_cons_self), ih]
          · intro l hl
            exact htrimmed l (List.mem_cons_of_mem line hl)
          · rwa [List.getLast?_cons_cons] at hlast
          · simp

theorem codeLines_unlines {ls : List Text} (h : AreTidy ls) : codeLines (Text.unlines ls) = ls := by
  cases ls with
  | nil =>
      rfl
  | cons line rest =>
      rw [codeLines, Text.lines_unlines h.plain (List.cons_ne_nil line rest),
        codeLinesOf_eq_self h.trimmed h.last]

/-!
# Lines of a code block
-/

theorem indentLine_cases (line : Text) :
    indentLine line = [] ∨ indentLine line = codeIndent ++ line := by
  cases line with
  | nil =>
      exact Or.inl rfl
  | cons c rest =>
      exact Or.inr rfl

theorem withoutIndent_indentLine (line : Text) : withoutIndent (indentLine line) = line := by
  cases line with
  | nil =>
      rfl
  | cons c rest =>
      change withoutIndent (codeIndent ++ c :: rest) = c :: rest
      rw [withoutIndent, Text.after?_append, Option.getD_some]

theorem lineFeed_not_mem_indentLine {line : Text} (h : '\n' ∉ line) : '\n' ∉ indentLine line := by
  rcases indentLine_cases line with hline | hline
  · simp [hline]
  · rw [hline, List.mem_append, not_or]
    exact ⟨by decide, h⟩

theorem indent_of_codeLines_nil {t : Text} (h : codeLines t = []) : indent t = [] := by
  rw [indent, h]
  rfl

theorem lines_indent {t : Text} (h : codeLines t ≠ []) :
    Text.lines (indent t) = (codeLines t).map indentLine := by
  apply Text.lines_unlines
  · intro l hl
    rcases List.mem_map.mp hl with ⟨line, hline, rfl⟩
    exact lineFeed_not_mem_indentLine (lineFeed_not_mem_codeLines line hline)
  · simpa using h

/-- Whatever a text of code is, the lines of its block are empty or indented. -/
theorem isPrefix_of_mem_lines_indent {t l : Text} (hl : l ∈ Text.lines (indent t)) (hne : l ≠ []) :
    codeIndent <+: l := by
  by_cases hcode : codeLines t = []
  · rw [indent_of_codeLines_nil hcode, Text.lines_nil, List.mem_singleton] at hl
    exact absurd hl hne
  · rw [lines_indent hcode] at hl
    rcases List.mem_map.mp hl with ⟨line, -, rfl⟩
    rcases indentLine_cases line with hline | hline
    · exact absurd hline hne
    · exact ⟨line, hline.symm⟩

theorem outdent_indent {ls : List Text} (h : AreTidy ls) :
    outdent (indent (Text.unlines ls)) = Text.unlines ls := by
  have hcode := codeLines_unlines h
  by_cases hnil : ls = []
  · rw [hnil]
    rfl
  · have hline : ∀ l ∈ ls, withoutIndent (indentLine l) = id l :=
      fun l _ => withoutIndent_indentLine l
    rw [← hcode] at hnil
    rw [outdent, lines_indent hnil, hcode, List.map_map]
    exact congrArg Text.unlines ((List.map_congr_left hline).trans (List.map_id ls))

/-- Ends of lines are lost where lines are not tidy. -/
example : outdent (indent "a\r\nb\n".toList) = "a\nb".toList := by
  decide

/-!
# The part without code
-/

/-- What a document says about an endpoint before its success response. -/
def opening (e : Endpoint) : Text :=
  paragraph ("### ".toList ++ e.method ++ " [".toList ++ e.urlTemplate ++ [']']) ++
    paragraphIfAny [] e.description ++
    paragraphIfAny "**NOTE:** ".toList e.notes ++
    parameterList "Parameters".toList e.urlParams ++
    parameterList "Request Body Parameters".toList e.dataParams ++
    "#### Example success response".toList

def errorPart (rs : List Response) : Text :=
  if rs.isEmpty then [] else "#### Example error responses\n".toList ++ rs.flatMap response

def examplePart (ts : List Text) : Text :=
  if ts.isEmpty then []
  else paragraph "#### Examples".toList ++ ts.flatMap fun t => paragraph (indent t)

theorem endpoint_eq_parts (e : Endpoint) :
    endpoint e =
      opening e ++ '\n' ::
        (response e.successResponse ++ (errorPart e.errorResponses ++ examplePart e.examples)) := by
  have htitle : "#### Example success response\n".toList =
      "#### Example success response".toList ++ ['\n'] := by
    decide
  rw [endpoint, htitle]
  simp only [opening, errorPart, examplePart, List.append_assoc, List.cons_append,
    List.nil_append]

theorem document_singleton (e : Endpoint) : document [e] = endpoint e := by
  rw [document, List.map_singleton, List.intercalate_singleton]

theorem document_cons (e : Endpoint) {rest : List Endpoint} (h : rest ≠ []) :
    document (e :: rest) = endpoint e ++ '\n' :: (paragraph "---".toList ++ document rest) := by
  have hrule : "\n---\n\n".toList = '\n' :: paragraph "---".toList := by
    decide
  have hrest : rest.map endpoint ≠ [] := by
    simpa using h
  rw [document, document, hrule, List.map_cons, List.intercalate_cons_of_ne_nil hrest,
    List.append_assoc, List.cons_append]

end Markdown
end EndpointDocs
