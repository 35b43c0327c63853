import EndpointDocs.Document.Html
import Mathlib.Data.List.Basic

/-!
# Rows of a page

An HTML page is a head, a row for each thing that it shows, and a tail.  A row is fixed markup, or
markup around texts of an endpoint.  The rows of a page name the markup instead of spelling it out,
so what can be said of the page is said of one row at a time.
-/

namespace EndpointDocs
namespace Html

/-- A text in which the characters of markup are escaped. -/
def escaped (t : Text) : Text :=
  t.flatMap escapedChar

/-- The rows of fixed markup. -/
inductive Fixed where
  | opening | closing | parameters | bodyParameters | listEnd | success | errors | examples
deriving DecidableEq, Repr

/-- The rows that hold one text. -/
inductive Element where
  | description | notes | parameter | code
deriving DecidableEq, Repr

/-- A row of a page. -/
inductive Row where
  | fixed (f : Fixed)
  | element (k : Element) (t : Text)
  | request (method url : Text)
  | status (code : UInt16)
deriving DecidableEq, Repr

namespace Fixed

def text : Fixed → Text
  | opening => "    <div class=\"container\">\n".toList
  | closing => "    </div>\n".toList
  | parameters => "      <h4>Parameters</h4>\n      <ul>\n".toList
  | bodyParameters => "      <h4>Request Body Parameters</h4>\n      <ul>\n".toList
  | listEnd => "      </ul>\n".toList
  | success => "      <h4>Example success response</h4>\n".toList
  | errors => "      <h4>Example error responses</h4>\n".toList
  | examples => "      <h4>Examples</h4>\n".toList

end Fixed

namespace Element

def before : Element → Text
  | description => "      <p>".toList
  | notes => "      <p><em>NOTE:</em> ".toList
  | parameter => "        <li>".toList
  | code => "      <pre>".toList

def after : Element → Text
  | description => "</p>\n".toList
  | notes => "</p>\n".toList
  | parameter => "</li>\n".toList
  | code => "</pre>\n".toList

end Element

namespace Row

def pieces : Row → List Piece
  | fixed f => [.markup f.text]
  | element k t => Html.element k.before t k.after
  | request method url =>
      Html.element "      <h3>".toList method " [".toList ++
        Html.element [] url "]</h3>\n".toList
  | status code =>
      Html.element "      <code>".toList (Numeral.decimal code.toNat) "</code>: <span>".toList ++
        [.markup (statusPhrase code), .markup "</span>\n".toList]

def written (r : Row) : Text :=
  r.pieces.flatMap Piece.written

/-- A row without what it takes from an endpoint. -/
def emptied : Row → Row
  | fixed f => fixed f
  | element k _ => element k []
  | request _ _ => request [] []
  | status _ => status 0

end Row

/-- A row with a text, if there is one. -/
def elementRow (k : Element) (t : Text) : List Row :=
  if t.isEmpty then [] else [.element k t]

def parameterRows (title : Fixed) (ps : List Parameter) : List Row :=
  if ps.isEmpty then []
  else
    .fixed title ::
      (ps.map fun p => .element .parameter (Markdown.parameterLine p)) ++ [.fixed .listEnd]

def responseRows (r : Response) : List Row :=
  .status r.code :: elementRow .code r.content

def errorRows (rs : List Response) : List Row :=
  if rs.isEmpty then [] else .fixed .errors :: rs.flatMap responseRows

def exampleRows (ts : List Text) : List Row :=
  if ts.isEmpty then [] else .fixed .examples :: ts.map (.element .code)

def rows (e : Endpoint) : List Row :=
  .fixed .opening :: .request e.method e.urlTemplate ::
    (elementRow .description e.description ++ (elementRow .notes e.notes ++
      (parameterRows .parameters e.urlParams ++
        (parameterRows .bodyParameters e.dataParams ++
          (.fixed .success :: (responseRows e.successResponse ++
            (errorRows e.errorResponses ++ (exampleRows e.examples ++ [.fixed .closing]))))))))

/-!
# Escaped texts
-/

/-- A character of an escaped text is written by an escape, or is in the text itself and no angle
bracket. -/
theorem mem_escaped {t : Text} {d : Char} (h : d ∈ escaped t) :
    "&ampltgquo#39;".toList.contains d = true ∨ d ∈ t ∧ d ≠ '<' ∧ d ≠ '>' := by
  rcases List.mem_flatMap.mp h with ⟨c, hc, hd⟩
  unfold escapedChar at hd
  split at hd
  iterate 5 exact Or.inl (List.all_eq_true.mp rfl d hd)
  next _ hlt hgt _ _ =>
    rw [List.mem_singleton] at hd
    subst hd
    exact Or.inr ⟨hc, hlt, hgt⟩

theorem lt_not_mem_escaped (t : Text) : '<' ∉ escaped t := by
  intro hmem
  rcases mem_escaped hmem with hmem | ⟨-, hlt, -⟩
  · exact absurd hmem (by decide)
  · exact hlt rfl

theorem gt_not_mem_escaped (t : Text) : '>' ∉ escaped t := by
  intro hmem
  rcases mem_escaped hmem with hmem | ⟨-, -, hgt⟩
  · exact absurd hmem (by decide)
  · exact hgt rfl

theorem space_not_mem_escaped {t : Text} (h : ' ' ∉ t) : ' ' ∉ escaped t := by
  intro hmem
  rcases mem_escaped hmem with hmem | ⟨hmem, -⟩
  · exact absurd hmem (by decide)
  · exact h hmem

/-!
# Rows as they are written
-/

theorem flatMap_written_element (before t after : Text) :
    (element before t after).flatMap Piece.written = before ++ (escaped t ++ after) := by
  rw [element, List.flatMap_cons, List.flatMap_cons, List.flatMap_singleton]
  rfl

theorem written_fixed (f : Fixed) : (Row.fixed f).written = f.text :=
  List.flatMap_singleton _ _

theorem written_element (k : Element) (t : Text) :
    (Row.element k t).written = k.before ++ (escaped t ++ k.after) :=
  flatMap_written_element k.before t k.after

theorem written_request (method url : Text) :
    (Row.request method url).written =
      "      <h3>".toList ++ (escaped method ++ (" [".toList ++
        (escaped url ++ "]</h3>\n".toList))) := by
  rw [Row.written, Row.pieces, List.flatMap_append, flatMap_written_element,
    flatMap_written_element, List.nil_append, List.append_assoc, List.append_assoc]

theorem written_status (code : UInt16) :
    (Row.status code).written =
      "      <code>".toList ++ (escaped (Numeral.decimal code.toNat) ++ ("</code>: <span>".toList ++
        (statusPhrase code ++ "</span>\n".toList))) := by
  rw [Row.written, Row.pieces, List.flatMap_append, flatMap_written_element, List.flatMap_cons,
    List.flatMap_singleton, List.append_assoc, List.append_assoc]
  rfl

/-!
# Pages as rows
-/

theorem pieces_elementRow (k : Element) (t : Text) :
    (elementRow k t).flatMap Row.pieces = elementIfAny k.before t k.after := by
  cases t with
  | nil =>
      rfl
  | cons c rest =>
      exact List.flatMap_singleton _ _

theorem pieces_elementRows {α : Type} (k : Element) (text : α → Text) (as : List α) :
    (as.map fun a => Row.element k (text a)).flatMap Row.pieces =
      as.flatMap fun a => element k.before (text a) k.after := by
  rw [List.flatMap_map]
  rfl

theorem pieces_parameterRows {title : Fixed} {t : Text}
    (h : title.text = "      <h4>".toList ++ t ++ "</h4>\n      <ul>\n".toList)
    (ps : List Parameter) : (parameterRows title ps).flatMap Row.pieces = parameterList t ps := by
  cases ps with
  | nil =>
      rfl
  | cons p rest =>
      change Piece.markup title.text :: ((_ ++ _ : List Row).flatMap Row.pieces) = _
      rw [List.flatMap_append, pieces_elementRows, h]
      rfl

theorem pieces_responseRows (r : Response) : (responseRows r).flatMap Row.pieces = response r := by
  rw [responseRows, List.flatMap_cons, pieces_elementRow]
  rfl

theorem pieces_errorRows (rs : List Response) :
    (errorRows rs).flatMap Row.pieces =
      if rs.isEmpty then []
      else .markup "      <h4>Example error responses</h4>\n".toList :: rs.flatMap response := by
  have hresponses : (rs.flatMap responseRows).flatMap Row.pieces = rs.flatMap response := by
    rw [List.flatMap_assoc]
    simp only [pieces_responseRows]
  cases rs with
  | nil =>
      rfl
  | cons r rest =>
      exact congrArg (Piece.markup Fixed.errors.text :: ·) hresponses

theorem pieces_exampleRows (ts : List Text) :
    (exampleRows ts).flatMap Row.pieces =
      if ts.isEmpty then []
      else .markup "      <h4>Examples</h4>\n".toList :: ts.flatMap code := by
  cases ts with
  | nil =>
      rfl
  | cons t rest =>
      have hcode := pieces_elementRows .code id (t :: rest)
      exact congrArg (Piece.markup Fixed.examples.text :: ·) hcode

theorem pieces_rows (e : Endpoint) : (rows e).flatMap Row.pieces = endpoint e := by
  have hurl : (parameterRows .parameters e.urlParams).flatMap Row.pieces =
      parameterList "Parameters".toList e.urlParams :=
    pieces_parameterRows (by decide) e.urlParams
  have hdata : (parameterRows .bodyParameters e.dataParams).flatMap Row.pieces =
      parameterList "Request Body Parameters".toList e.dataParams :=
    pieces_parameterRows (by decide) e.dataParams
  rw [rows, endpoint]
  simp only [List.flatMap_cons, List.flatMap_append, List.flatMap_nil, pieces_elementRow, hurl,
    hdata, pieces_responseRows, pieces_errorRows, pieces_exampleRows, List.append_assoc,
    List.cons_append, List.append_nil]
  rfl

theorem document_eq_rows (es : List Endpoint) :
    document es = head ++ ((es.flatMap rows).flatMap Row.written ++ tail) := by
  have hpage : page es =
      .markup head :: ((es.flatMap rows).flatMap Row.pieces ++ [.markup tail]) := by
    rw [List.flatMap_assoc]
    simp only [pieces_rows]
    rfl
  rw [document, hpage, List.flatMap_cons, List.flatMap_append, List.flatMap_assoc,
    List.flatMap_singleton]
  rfl

/-!
# Lists that agree in a part of their members
-/

theorem flatMap_eq_of_map_eq {α β γ : Type} {f : α → γ} {g : α → List β}
    (hg : ∀ a b, f a = f b → g a = g b) {as bs : List α} (h : as.map f = bs.map f) :
    as.flatMap g = bs.flatMap g := by
  induction as generalizing bs with
  | nil =>
      rw [List.map_eq_nil_iff.mp h.symm]
  | cons a rest ih =>
      cases bs with
      | nil =>
          cases h
      | cons b others =>
          rw [List.map_cons, List.map_cons, List.cons.injEq] at h
          rw [List.flatMap_cons, List.flatMap_cons, hg a b h.left, ih h.right]

theorem isEmpty_eq_of_length {α : Type} {as bs : List α} (h : as.length = bs.length) :
    as.isEmpty = bs.isEmpty := by
  rw [Bool.eq_iff_iff, List.isEmpty_iff_length_eq_zero, List.isEmpty_iff_length_eq_zero, h]

end Html
end EndpointDocs
