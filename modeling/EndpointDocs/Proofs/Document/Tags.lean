import EndpointDocs.Proofs.Document.Rows
import Mathlib.Data.List.TakeWhile

/-!
# Tags of a page

No text of an endpoint has an angle bracket left when it is escaped, and no status phrase has one.
All tags of a page are those of its rows, so two lists of endpoints in which the same things are
there have pages with the same tags, whatever their texts and codes are.

## Shapes

The shape of an endpoint says which of its texts are there and how long its lists are.
-/

namespace EndpointDocs
namespace Html

def isAngle (c : Char) : Bool :=
  c == '<' || c == '>'

def angles (t : Text) : Text :=
  t.filter isAngle

/-- The tag that begins a text: `<` and what follows up to the next `>`. -/
def tag? : Text → Option Text
  | [] => none
  | c :: rest =>
      if c = '<' ∧ '>' ∈ rest then some (c :: rest.takeWhile (· != '>') ++ ['>']) else none

/-- The tags of a text, one from each `<` to the next `>`. -/
def tags : Text → List Text
  | [] => []
  | c :: rest => (tag? (c :: rest)).toList ++ tags rest

/-- Whether behind each `<` of a text there is a `>`. -/
def isClosed : Text → Bool
  | [] => true
  | c :: rest => (c != '<' || rest.contains '>') && isClosed rest

/-- Which things a page shows of an endpoint, without the texts and codes. -/
structure Shape where
  withoutDescription : Bool
  withoutNotes : Bool
  urlParams : Nat
  dataParams : Nat
  successWithoutContent : Bool
  errorsWithoutContent : List Bool
  examples : Nat
deriving DecidableEq, Repr

def shape (e : Endpoint) : Shape where
  withoutDescription := e.description.isEmpty
  withoutNotes := e.notes.isEmpty
  urlParams := e.urlParams.length
  dataParams := e.dataParams.length
  successWithoutContent := e.successResponse.content.isEmpty
  errorsWithoutContent := e.errorResponses.map fun r => r.content.isEmpty
  examples := e.examples.length

/-!
# Angle brackets
-/

theorem angles_append (a b : Text) : angles (a ++ b) = angles a ++ angles b :=
  List.filter_append a b

theorem angles_eq_nil_iff {t : Text} : angles t = [] ↔ '<' ∉ t ∧ '>' ∉ t := by
  rw [angles, List.filter_eq_nil_iff]
  constructor
  · intro h
    constructor
    · intro hmem
      exact h '<' hmem rfl
    · intro hmem
      exact h '>' hmem rfl
  · rintro ⟨hlt, hgt⟩ c hc hangle
    rw [isAngle, Bool.or_eq_true, beq_iff_eq, beq_iff_eq] at hangle
    rcases hangle with heq | heq
    · exact hlt (heq ▸ hc)
    · exact hgt (heq ▸ hc)

theorem angles_escaped (t : Text) : angles (escaped t) = [] :=
  angles_eq_nil_iff.mpr ⟨lt_not_mem_escaped t, gt_not_mem_escaped t⟩

theorem angles_statusPhrase (code : UInt16) : angles (statusPhrase code) = [] := by
  have hall : ∀ entry ∈ statusPhrases, angles entry.2 = [] := by
    decide +kernel
  rw [statusPhrase]
  cases hphrase : statusPhrases.lookup code with
  | none =>
      rfl
  | some phrase =>
      rcases List.lookup_eq_some_iff.mp hphrase with ⟨before, after, hsplit, -⟩
      exact hall (code, phrase) (by simp [hsplit])

/-!
# Tags of texts put together
-/

theorem tags_append {a : Text} (h : isClosed a = true) (b : Text) :
    tags (a ++ b) = tags a ++ tags b := by
  induction a with
  | nil =>
      rfl
  | cons c rest ih =>
      rw [isClosed, Bool.and_eq_true, Bool.or_eq_true] at h
      rcases h with ⟨hc, hrest⟩
      have hfirst : tag? (c :: (rest ++ b)) = tag? (c :: rest) := by
        by_cases hopen : c = '<'
        · have hmem : '>' ∈ rest := by
            simpa [hopen] using hc
          have htake : (rest ++ b).takeWhile (· != '>') = rest.takeWhile (· != '>') := by
            rw [List.takeWhile_append, if_neg]
            intro hlength
            have hall := List.takeWhile_eq_self_iff.mp
              (List.IsPrefix.eq_of_length (List.takeWhile_prefix _) hlength) '>' hmem
            simp at hall
          simp [tag?, hopen, hmem, htake]
        · simp [tag?, hopen]
      rw [List.cons_append, tags, tags, hfirst, ih hrest, List.append_assoc]

theorem isClosed_of_angles {t : Text} (h : angles t = []) : isClosed t = true := by
  rw [angles_eq_nil_iff] at h
  induction t with
  | nil =>
      rfl
  | cons c rest ih =>
      simp only [List.mem_cons, not_or] at h
      have hc : c ≠ '<' := fun heq => h.left.left heq.symm
      rw [isClosed, ih ⟨h.left.right, h.right.right⟩]
      simp [hc]

theorem tags_of_angles {t : Text} (h : angles t = []) : tags t = [] := by
  rw [angles_eq_nil_iff] at h
  induction t with
  | nil =>
      rfl
  | cons c rest ih =>
      simp only [List.mem_cons, not_or] at h
      have hc : c ≠ '<' := fun heq => h.left.left heq.symm
      rw [tags, ih ⟨h.left.right, h.right.right⟩]
      simp [tag?, hc]

/-- A text without angle brackets has no part in the tags. -/
theorem tags_append_of_angles {a : Text} (h : angles a = []) (b : Text) :
    tags (a ++ b) = tags b := by
  rw [tags_append (isClosed_of_angles h), tags_of_angles h, List.nil_append]

/-- Escaped text behind closed markup has no part in the tags. -/
theorem tags_enclosed {before : Text} (h : isClosed before = true) (t rest : Text) :
    tags (before ++ (escaped t ++ rest)) = tags before ++ tags rest := by
  rw [tags_append h, tags_append_of_angles (angles_escaped t)]

/-!
# Rows
-/

theorem isClosed_before (k : Element) : isClosed k.before = true := by
  cases k <;> decide

theorem isClosed_emptied (r : Row) : isClosed r.emptied.written = true := by
  cases r with
  | fixed f =>
      cases f <;> rfl
  | element k t =>
      cases k <;> rfl
  | request method url =>
      rfl
  | status code =>
      rfl

theorem isClosed_head : isClosed head = true := by
  -- the literals of the head are evaluated one by one, which is much faster than all at once
  unfold head
  repeat rw [String.toList_append]
  decide +kernel

theorem angles_written (r : Row) : angles r.written = angles r.emptied.written := by
  cases r with
  | fixed f =>
      rfl
  | element k t =>
      simp only [Row.emptied, written_element, angles_append, angles_escaped]
  | request method url =>
      simp only [Row.emptied, written_request, angles_append, angles_escaped]
  | status code =>
      simp only [Row.emptied, written_status, angles_append, angles_escaped, angles_statusPhrase]

theorem tags_written_append (r : Row) (rest : Text) :
    tags (r.written ++ rest) = tags r.emptied.written ++ tags rest := by
  rw [← tags_append (isClosed_emptied r)]
  cases r with
  | fixed f =>
      rfl
  | element k t =>
      simp only [Row.emptied, written_element, List.append_assoc, tags_enclosed (isClosed_before k)]
  | request method url =>
      have hstart : isClosed "      <h3>".toList = true := by decide
      have hmiddle : isClosed " [".toList = true := by decide
      simp only [Row.emptied, written_request, List.append_assoc, tags_enclosed hstart,
        tags_enclosed hmiddle]
  | status code =>
      have hstart : isClosed "      <code>".toList = true := by decide
      have hmiddle : isClosed "</code>: <span>".toList = true := by decide
      simp only [Row.emptied, written_status, List.append_assoc, tags_enclosed hstart,
        tags_append hmiddle, tags_append_of_angles (angles_statusPhrase _)]

theorem angles_flatMap_written (rs : List Row) (rest : Text) :
    angles (rs.flatMap Row.written ++ rest) =
      ((rs.map Row.emptied).flatMap fun r => angles r.written) ++ angles rest := by
  induction rs with
  | nil =>
      rfl
  | cons r later ih =>
      rw [List.flatMap_cons, List.append_assoc, angles_append, ih, angles_written, List.map_cons,
        List.flatMap_cons, List.append_assoc]

theorem tags_flatMap_written (rs : List Row) (rest : Text) :
    tags (rs.flatMap Row.written ++ rest) =
      ((rs.map Row.emptied).flatMap fun r => tags r.written) ++ tags rest := by
  induction rs with
  | nil =>
      rfl
  | cons r later ih =>
      rw [List.flatMap_cons, List.append_assoc, tags_written_append, ih, List.map_cons,
        List.flatMap_cons, List.append_assoc]

/-!
# Shapes and rows
-/

theorem emptied_elementRow (k : Element) {t u : Text} (h : t.isEmpty = u.isEmpty) :
    (elementRow k t).map Row.emptied = (elementRow k u).map Row.emptied := by
  rw [elementRow, elementRow, h]
  cases u.isEmpty <;> rfl

theorem emptied_elementRows {α : Type} (k : Element) (text : α → Text) {as bs : List α}
    (h : as.length = bs.length) :
    (as.map fun a => Row.element k (text a)).map Row.emptied =
      (bs.map fun b => Row.element k (text b)).map Row.emptied := by
  have hconst : ∀ cs : List α, (cs.map fun c => Row.element k (text c)).map Row.emptied =
      List.replicate cs.length (Row.element k []) := by
    intro cs
    rw [List.map_map]
    exact List.map_const'
  rw [hconst, hconst, h]

theorem emptied_parameterRows (title : Fixed) {ps qs : List Parameter}
    (h : ps.length = qs.length) :
    (parameterRows title ps).map Row.emptied = (parameterRows title qs).map Row.emptied := by
  have hitems := emptied_elementRows .parameter Markdown.parameterLine h
  rw [parameterRows, parameterRows, isEmpty_eq_of_length h]
  cases qs.isEmpty with
  | true =>
      rfl
  | false =>
      change _ :: (_ ++ _ : List Row).map Row.emptied = _ :: (_ ++ _ : List Row).map Row.emptied
      rw [List.map_append, List.map_append, hitems]

theorem emptied_responseRows {r s : Response} (h : r.content.isEmpty = s.content.isEmpty) :
    (responseRows r).map Row.emptied = (responseRows s).map Row.emptied :=
  congrArg (Row.status 0 :: ·) (emptied_elementRow .code h)

theorem emptied_errorRows {rs ss : List Response}
    (h : (rs.map fun r => r.content.isEmpty) = ss.map fun s => s.content.isEmpty) :
    (errorRows rs).map Row.emptied = (errorRows ss).map Row.emptied := by
  have hlength : rs.length = ss.length := by
    simpa using congrArg List.length h
  have hresponses : (rs.flatMap responseRows).map Row.emptied =
      (ss.flatMap responseRows).map Row.emptied := by
    rw [List.map_flatMap, List.map_flatMap]
    exact flatMap_eq_of_map_eq (fun _ _ => emptied_responseRows) h
  rw [errorRows, errorRows, isEmpty_eq_of_length hlength]
  cases ss.isEmpty with
  | true =>
      rfl
  | false =>
      exact congrArg (Row.fixed .errors :: ·) hresponses

theorem emptied_exampleRows {ts us : List Text} (h : ts.length = us.length) :
    (exampleRows ts).map Row.emptied = (exampleRows us).map Row.emptied := by
  have hitems := emptied_elementRows .code id h
  rw [exampleRows, exampleRows, isEmpty_eq_of_length h]
  cases us.isEmpty with
  | true =>
      rfl
  | false =>
      exact congrArg (Row.fixed .examples :: ·) hitems

theorem emptied_rows {e f : Endpoint} (h : shape e = shape f) :
    (rows e).map Row.emptied = (rows f).map Row.emptied := by
  simp only [shape, Shape.mk.injEq] at h
  rcases h with ⟨hdescription, hnotes, hurl, hdata, hsuccess, herrors, hexamples⟩
  simp only [rows, List.map_cons, List.map_append, emptied_elementRow .description hdescription,
    emptied_elementRow .notes hnotes, emptied_parameterRows _ hurl, emptied_parameterRows _ hdata,
    emptied_responseRows hsuccess, emptied_errorRows herrors, emptied_exampleRows hexamples]
  rfl

theorem tags_document_of_shape {es fs : List Endpoint} (h : es.map shape = fs.map shape) :
    tags (document es) = tags (document fs) ∧ angles (document es) = angles (document fs) := by
  have hrows : (es.flatMap rows).map Row.emptied = (fs.flatMap rows).map Row.emptied := by
    rw [List.map_flatMap, List.map_flatMap]
    exact flatMap_eq_of_map_eq (fun _ _ => emptied_rows) h
  constructor
  · rw [document_eq_rows, document_eq_rows, tags_append isClosed_head, tags_append isClosed_head,
      tags_flatMap_written, tags_flatMap_written, hrows]
  · rw [document_eq_rows, document_eq_rows, angles_append head, angles_append head,
      angles_flatMap_written, angles_flatMap_written, hrows]

/-- Markup in the verb, the notes, a parameter, a response and an example. -/
def hostile : Endpoint where
  method := "<b>GET".toList
  urlTemplate := "/x]</h3><script>".toList
  urlParams := [⟨"<id".toList, true, ">".toList, "</li></ul>".toList⟩]
  successResponse := ⟨404, "</pre>&lt;".toList⟩
  errorResponses := [⟨500, []⟩]
  examples := ["<img src='x'>".toList, []]
  notes := "<em>".toList

/-- An endpoint of the same shape without any markup. -/
def harmless : Endpoint where
  urlParams := [{}]
  successResponse := ⟨200, "ok".toList⟩
  errorResponses := [{}]
  examples := [[], []]
  notes := "n".toList

theorem tags_document_of_shape_hostile :
    [hostile].map shape = [harmless].map shape ∧
      tags (document [hostile]) = tags (document [harmless]) ∧
        angles (document [hostile]) = angles (document [harmless]) :=
  ⟨by decide, tags_document_of_shape (by decide)⟩

end Html
end EndpointDocs
