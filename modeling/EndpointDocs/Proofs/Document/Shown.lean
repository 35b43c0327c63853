import EndpointDocs.Proofs.Document.Rows
import EndpointDocs.Proofs.Numeral.Decimal
import EndpointDocs.Proofs.Section.Kinds

/-!
# What a page shows

A page shows all texts and codes of its endpoints but the names, and a parameter as one line.  Two
pages with the same characters show the same: escaping loses nothing, no row begins another row, and
the rows of a page tell which texts belong to which endpoint.

## Reading rows from behind

Code rows belong to the response or the title above them and parameter rows to the title above
them, so the rows of a page are read from the last to the first.
-/

namespace EndpointDocs
namespace Html

/-- What a page shows of an endpoint. -/
structure Shown where
  method : Text := []
  urlTemplate : Text := []
  description : Text := []
  notes : Text := []
  urlParams : List Text := []
  dataParams : List Text := []
  successResponse : Response := {}
  errorResponses : List Response := []
  examples : List Text := []
deriving DecidableEq, Repr

def shown (e : Endpoint) : Shown where
  method := e.method
  urlTemplate := e.urlTemplate
  description := e.description
  notes := e.notes
  urlParams := e.urlParams.map Markdown.parameterLine
  dataParams := e.dataParams.map Markdown.parameterLine
  successResponse := e.successResponse
  errorResponses := e.errorResponses
  examples := e.examples

/-!
# Escaped texts
-/

/-- The escapes without the ampersand, and the characters that they stand for. -/
def entities : List (Text × Char) :=
  [("amp;".toList, '&'), ("lt;".toList, '<'), ("gt;".toList, '>'), ("quot;".toList, '"'),
   ("#39;".toList, '\'')]

/-- The first character of an escaped text. -/
def firstChar? : Text → Option (Char × Text)
  | [] => none
  | c :: rest =>
      if c = '&' then
        entities.findSome? fun entity => (Text.after? entity.1 rest).map fun later =>
          (entity.2, later)
      else some (c, rest)

theorem firstChar?_escapedChar (c : Char) (rest : Text) :
    firstChar? (escapedChar c ++ rest) = some (c, rest) := by
  unfold escapedChar
  split
  · rfl
  · rfl
  · rfl
  · rfl
  · rfl
  · next hamp _ _ _ _ =>
      have hc : c ≠ '&' := hamp
      rw [List.singleton_append, firstChar?, if_neg hc]

theorem escaped_injective {t u : Text} (h : escaped t = escaped u) : t = u := by
  induction t generalizing u with
  | nil =>
      cases u with
      | nil =>
          rfl
      | cons d others =>
          have hfirst := firstChar?_escapedChar d (escaped others)
          change firstChar? (escaped (d :: others)) = _ at hfirst
          rw [← h] at hfirst
          cases hfirst
  | cons c rest ih =>
      have hfirst := firstChar?_escapedChar c (escaped rest)
      change firstChar? (escaped (c :: rest)) = _ at hfirst
      rw [h] at hfirst
      cases u with
      | nil =>
          cases hfirst
      | cons d others =>
          have hother := firstChar?_escapedChar d (escaped others)
          change firstChar? (escaped (d :: others)) = _ at hother
          rw [hother, Option.some.injEq, Prod.mk.injEq] at hfirst
          rw [hfirst.left, ih hfirst.right.symm]

theorem append_cons_inj_of_not_mem {α : Type} {a b r s : List α} {x : α} (ha : x ∉ a)
    (hb : x ∉ b) (h : a ++ x :: r = b ++ x :: s) : a = b ∧ r = s := by
  induction a generalizing b with
  | nil =>
      cases b with
      | nil =>
          injection h with _ hrest
          exact ⟨rfl, hrest⟩
      | cons y others =>
          injection h with hx _
          exact absurd (by simp [hx]) hb
  | cons z rest ih =>
      cases b with
      | nil =>
          injection h with hx _
          exact absurd (by simp [hx]) ha
      | cons y others =>
          injection h with hzy hrest
          rw [List.mem_cons, not_or] at ha hb
          rcases ih ha.right hb.right hrest with ⟨htail, hback⟩
          exact ⟨by rw [hzy, htail], hback⟩

/-- An escaped text ends at the first character that cannot be in it. -/
theorem escaped_append_inj {t u r s : Text} {stop : Char} (ht : stop ∉ escaped t)
    (hu : stop ∉ escaped u) (h : escaped t ++ stop :: r = escaped u ++ stop :: s) :
    t = u ∧ r = s := by
  rcases append_cons_inj_of_not_mem ht hu h with ⟨htu, hrest⟩
  exact ⟨escaped_injective htu, hrest⟩

/-!
# Rows that follow one another

A row tells by the markup at its start which row it is, and by the first markup behind it where its
text ends.
-/

namespace Row

def start : Row → Text
  | fixed f => f.text
  | element k _ => k.before
  | request _ _ => "      <h3>".toList
  | status _ => "      <code>".toList

/-- The rows, without their texts, that do not begin with the markup of a description. -/
def others : List Row :=
  [fixed .opening, fixed .closing, fixed .parameters, fixed .bodyParameters, fixed .listEnd,
   fixed .success, fixed .errors, fixed .examples, request [] [], status 0, element .parameter [],
   element .code []]

def begins (t : Text) (r : Row) : Bool :=
  Text.startsWith r.start t

/-- The row that begins a text, without its texts.  The markup of a description begins that of
notes. -/
def startOf? (t : Text) : Option Row :=
  (others ++ [element .notes [], element .description []]).find? (begins t)

/-- The rows that can be told from the others: a description is not empty, and the verb of a request
ends at the first space. -/
def IsReadable : Row → Prop
  | element .description t => t ≠ []
  | request method _ => ' ' ∉ method
  | _ => True

theorem exists_escaped_eq_cons {t : Text} (h : t ≠ []) :
    ∃ d later, escaped t = d :: later ∧ d ≠ '<' := by
  cases hescaped : escaped t with
  | nil =>
      exact absurd (escaped_injective (u := []) hescaped) h
  | cons d later =>
      refine ⟨d, later, rfl, ?_⟩
      intro hd
      apply lt_not_mem_escaped t
      rw [hescaped, hd]
      exact List.mem_cons_self

theorem startOf?_description {d : Char} (hd : d ≠ '<') (rest : Text) :
    startOf? (Element.description.before ++ d :: rest) = some (element .description []) := by
  have hothers : others.find? (begins (Element.description.before ++ d :: rest)) = none :=
    rfl
  have hnotes : ¬ begins (Element.description.before ++ d :: rest) (element .notes []) = true := by
    intro hstarts
    rcases Option.isSome_iff_exists.mp hstarts with ⟨after, hafter⟩
    have hstart : (element .notes []).start =
        Element.description.before ++ '<' :: "em>NOTE:</em> ".toList := by
      decide
    rw [Text.after?_eq_some_iff, hstart, List.append_assoc] at hafter
    injection List.append_cancel_left hafter with hlt _
    exact hd hlt
  have hdescription : begins (Element.description.before ++ d :: rest) (element .description []) =
      true := by
    have hstart : (element .description []).start = Element.description.before := rfl
    rw [begins, Text.startsWith, hstart, Text.after?_append]
    rfl
  unfold startOf?
  rw [List.find?_append, hothers, Option.none_or, List.find?_cons_of_neg hnotes,
    List.find?_cons_of_pos hdescription]

theorem startOf?_written {r : Row} (h : r.IsReadable) (rest : Text) :
    startOf? (r.written ++ rest) = some r.emptied := by
  cases r with
  | fixed f =>
      rw [written_fixed]
      cases f <;> rfl
  | element k t =>
      cases k with
      | description =>
          rcases exists_escaped_eq_cons h with ⟨d, later, hescaped, hd⟩
          rw [written_element, hescaped, List.append_assoc]
          exact startOf?_description hd _
      | notes =>
          rw [written_element]
          rfl
      | parameter =>
          rw [written_element]
          rfl
      | code =>
          rw [written_element]
          rfl
  | request method url =>
      rw [written_request]
      rfl
  | status code =>
      rw [written_status]
      rfl

theorem element_append_inj (k : Element) {t u r s : Text}
    (h : (element k t).written ++ r = (element k u).written ++ s) : t = u ∧ r = s := by
  have hafter : ∃ later, k.after = '<' :: later := by
    cases k <;> exact ⟨_, rfl⟩
  rcases hafter with ⟨later, hlater⟩
  rw [written_element, written_element, hlater] at h
  simp only [List.append_assoc, List.cons_append] at h
  rcases escaped_append_inj (lt_not_mem_escaped t) (lt_not_mem_escaped u)
    (List.append_cancel_left h) with ⟨htexts, hrest⟩
  exact ⟨htexts, List.append_cancel_left hrest⟩

theorem request_append_inj {method url method' url' r s : Text} (hmethod : ' ' ∉ method)
    (hmethod' : ' ' ∉ method')
    (h : (request method url).written ++ r = (request method' url').written ++ s) :
    method = method' ∧ url = url' ∧ r = s := by
  rw [written_request, written_request] at h
  simp only [List.append_assoc] at h
  rcases escaped_append_inj (space_not_mem_escaped hmethod) (space_not_mem_escaped hmethod')
    (List.append_cancel_left h) with ⟨hmethods, hbracket⟩
  injection hbracket with _ hurls
  -- a URL may hold brackets, so the bracket behind it is read as its last character
  have hclosed : ∀ u rest : Text, escaped u ++ ("]</h3>\n".toList ++ rest) =
      escaped (u ++ [']']) ++ '<' :: ("/h3>\n".toList ++ rest) := by
    intro u rest
    rw [escaped, escaped, List.flatMap_append, List.append_assoc]
    rfl
  change escaped url ++ ("]</h3>\n".toList ++ r) = escaped url' ++ ("]</h3>\n".toList ++ s) at hurls
  rw [hclosed, hclosed] at hurls
  rcases escaped_append_inj (lt_not_mem_escaped _) (lt_not_mem_escaped _) hurls with
    ⟨hbrackets, hrest⟩
  exact ⟨hmethods, List.append_cancel_right hbrackets, List.append_cancel_left hrest⟩

theorem status_append_inj {code code' : UInt16} {r s : Text}
    (h : (status code).written ++ r = (status code').written ++ s) : code = code' ∧ r = s := by
  rw [written_status, written_status] at h
  simp only [List.append_assoc] at h
  rcases escaped_append_inj (lt_not_mem_escaped _) (lt_not_mem_escaped _)
    (List.append_cancel_left h) with ⟨hdecimal, hrest⟩
  have hnat := congrArg (Numeral.digits? 10) hdecimal
  rw [Numeral.digits?_decimal, Numeral.digits?_decimal, Option.some.injEq, UInt16.toNat_inj] at hnat
  subst hnat
  exact ⟨rfl, List.append_cancel_left (List.append_cancel_left (List.append_cancel_left hrest))⟩

/-- A readable row does not begin another one. -/
theorem written_append_inj {a b : Row} (ha : a.IsReadable) (hb : b.IsReadable) {r s : Text}
    (h : a.written ++ r = b.written ++ s) : a = b ∧ r = s := by
  have hemptied : a.emptied = b.emptied := by
    have hstart := startOf?_written ha r
    rw [h, startOf?_written hb s] at hstart
    injection hstart with hstart
    exact hstart.symm
  cases a with
  | fixed f =>
      cases b with
      | fixed g =>
          injection hemptied with hfg
          subst hfg
          exact ⟨rfl, List.append_cancel_left h⟩
      | element k u => cases hemptied
      | request method url => cases hemptied
      | status code => cases hemptied
  | element k t =>
      cases b with
      | element l u =>
          injection hemptied with hkl _
          subst hkl
          rcases element_append_inj k h with ⟨htu, hrest⟩
          exact ⟨by rw [htu], hrest⟩
      | fixed g => cases hemptied
      | request method url => cases hemptied
      | status code => cases hemptied
  | request method url =>
      cases b with
      | request method' url' =>
          rcases request_append_inj ha hb h with ⟨hmethod, hurl, hrest⟩
          exact ⟨by rw [hmethod, hurl], hrest⟩
      | fixed g => cases hemptied
      | element l u => cases hemptied
      | status code => cases hemptied
  | status code =>
      cases b with
      | status code' =>
          rcases status_append_inj h with ⟨hcode, hrest⟩
          exact ⟨by rw [hcode], hrest⟩
      | fixed g => cases hemptied
      | element l u => cases hemptied
      | request method url => cases hemptied

/-- The tail of a page ends its rows. -/
theorem flatMap_written_inj {rs ss : List Row} (hrs : ∀ r ∈ rs, r.IsReadable)
    (hss : ∀ s ∈ ss, s.IsReadable)
    (h : rs.flatMap Row.written ++ tail = ss.flatMap Row.written ++ tail) : rs = ss := by
  have htail : startOf? tail = none := rfl
  induction rs generalizing ss with
  | nil =>
      cases ss with
      | nil =>
          rfl
      | cons b others =>
          have hstart := startOf?_written (hss b (by simp)) (others.flatMap Row.written ++ tail)
          rw [← List.append_assoc, ← List.flatMap_cons, ← h, List.flatMap_nil, List.nil_append,
            htail] at hstart
          cases hstart
  | cons a rest ih =>
      cases ss with
      | nil =>
          have hstart := startOf?_written (hrs a (by simp)) (rest.flatMap Row.written ++ tail)
          rw [← List.append_assoc, ← List.flatMap_cons, h, List.flatMap_nil, List.nil_append,
            htail] at hstart
          cases hstart
      | cons b others =>
          rw [List.flatMap_cons, List.flatMap_cons, List.append_assoc, List.append_assoc] at h
          rcases written_append_inj (hrs a (by simp)) (hss b (by simp)) h with ⟨hab, hrest⟩
          rw [hab, ih (fun r hr => hrs r (by simp [hr])) (fun s hs => hss s (by simp [hs])) hrest]

end Row

/-!
# Reading rows from behind
-/

/-- What the rows below some place say: the texts, responses and parameter lines that belong to a
row above, the endpoint that begins above, and those that begin below. -/
structure Below where
  codes : List Text := []
  responses : List Response := []
  lines : List Text := []
  current : Shown := {}
  later : List Shown := []

/-- Takes the row above a place. -/
def Row.above : Row → Below → Below
  | fixed .closing, b => { later := b.later }
  | fixed .opening, b => { later := b.current :: b.later }
  | fixed .parameters, b => { b with lines := [], current.urlParams := b.lines }
  | fixed .bodyParameters, b => { b with lines := [], current.dataParams := b.lines }
  | fixed .listEnd, b => b
  | fixed .success, b =>
      { b with responses := [], current.successResponse := b.responses.headD {} }
  | fixed .errors, b => { b with responses := [], current.errorResponses := b.responses }
  | fixed .examples, b => { b with codes := [], current.examples := b.codes }
  | element .description t, b => { b with current.description := t }
  | element .notes t, b => { b with current.notes := t }
  | element .parameter t, b => { b with lines := t :: b.lines }
  | element .code t, b => { b with codes := t :: b.codes }
  | request method url, b =>
      { b with current.method := method, current.urlTemplate := url }
  | status code, b =>
      { b with codes := [], responses := ⟨code, b.codes.headD []⟩ :: b.responses }

/-- What rows say, with what is said below them. -/
def readRows (rs : List Row) (b : Below) : Below :=
  rs.foldr Row.above b

theorem readRows_append (rs ss : List Row) (b : Below) :
    readRows (rs ++ ss) b = readRows rs (readRows ss b) :=
  List.foldr_append

theorem readRows_cons (r : Row) (rs : List Row) (b : Below) :
    readRows (r :: rs) b = r.above (readRows rs b) :=
  rfl

theorem readRows_codes (ts : List Text) (b : Below) :
    readRows (ts.map (.element .code)) b = { b with codes := ts ++ b.codes } := by
  induction ts with
  | nil =>
      rfl
  | cons t rest ih =>
      rw [List.map_cons, readRows_cons, ih]
      rfl

theorem readRows_lines {α : Type} (line : α → Text) (as : List α) (b : Below) :
    readRows (as.map fun a => .element .parameter (line a)) b =
      { b with lines := as.map line ++ b.lines } := by
  induction as with
  | nil =>
      rfl
  | cons a rest ih =>
      rw [List.map_cons, readRows_cons, ih]
      rfl

theorem readRows_responseRows (r : Response) {b : Below} (h : b.codes = []) :
    readRows (responseRows r) b = { b with responses := r :: b.responses } := by
  rcases r with ⟨code, content⟩
  rcases b with ⟨codes, responses, lines, current, later⟩
  have hcodes : codes = [] := h
  subst hcodes
  cases content with
  | nil => rfl
  | cons c rest => rfl

theorem readRows_flatMap_responseRows (rs : List Response) {b : Below} (h : b.codes = []) :
    readRows (rs.flatMap responseRows) b = { b with responses := rs ++ b.responses } := by
  induction rs with
  | nil =>
      rfl
  | cons r rest ih =>
      rw [List.flatMap_cons, readRows_append, ih]
      exact readRows_responseRows r h

/-!
A part of the rows of an endpoint sets what it shows, and leaves nothing over for the rows above it.
-/

theorem readRows_exampleRows (ts : List Text) {current : Shown} (h : current.examples = [])
    (later : List Shown) :
    readRows (exampleRows ts) { current, later } =
      { current := { current with examples := ts }, later } := by
  cases ts with
  | nil =>
      cases current
      cases h
      rfl
  | cons t rest =>
      have hrows : exampleRows (t :: rest) =
          .fixed .examples :: (t :: rest).map (.element .code) := rfl
      rw [hrows, readRows_cons, readRows_codes, List.append_nil]
      rfl

theorem readRows_errorRows (rs : List Response) {current : Shown} (h : current.errorResponses = [])
    (later : List Shown) :
    readRows (errorRows rs) { current, later } =
      { current := { current with errorResponses := rs }, later } := by
  cases rs with
  | nil =>
      cases current
      cases h
      rfl
  | cons r rest =>
      have hrows : errorRows (r :: rest) = .fixed .errors :: (r :: rest).flatMap responseRows := rfl
      rw [hrows, readRows_cons, readRows_flatMap_responseRows _ rfl, List.append_nil]
      rfl

theorem readRows_successRows (r : Response) (current : Shown) (later : List Shown) :
    readRows (.fixed .success :: responseRows r) { current, later } =
      { current := { current with successResponse := r }, later } := by
  rw [readRows_cons, readRows_responseRows r rfl]
  rfl

/-- Without parameters there is no title, and what the title would set is as it was. -/
theorem readRows_parameterRows {title : Fixed} {current : Shown} (later : List Shown)
    (set : List Text → Shown) (hnone : set [] = current)
    (habove : ∀ lines, (Row.fixed title).above { current, later, lines } =
      { current := set lines, later }) (ps : List Parameter) :
    readRows (parameterRows title ps) { current, later } =
      { current := set (ps.map Markdown.parameterLine), later } := by
  cases ps with
  | nil =>
      rw [List.map_nil, hnone]
      rfl
  | cons p rest =>
      have hrows : parameterRows title (p :: rest) = .fixed title ::
          (((p :: rest).map fun q => .element .parameter (Markdown.parameterLine q)) ++
            [.fixed .listEnd]) := rfl
      rw [hrows, readRows_cons, readRows_append, readRows_lines, ← habove]
      congr
      exact List.append_nil _

theorem readRows_bodyParameterRows (ps : List Parameter) {current : Shown}
    (h : current.dataParams = []) (later : List Shown) :
    readRows (parameterRows .bodyParameters ps) { current, later } =
      { current := { current with dataParams := ps.map Markdown.parameterLine }, later } :=
  readRows_parameterRows later (fun lines => { current with dataParams := lines })
    (by rw [← h]) (fun _ => rfl) ps

theorem readRows_urlParameterRows (ps : List Parameter) {current : Shown}
    (h : current.urlParams = []) (later : List Shown) :
    readRows (parameterRows .parameters ps) { current, later } =
      { current := { current with urlParams := ps.map Markdown.parameterLine }, later } :=
  readRows_parameterRows later (fun lines => { current with urlParams := lines })
    (by rw [← h]) (fun _ => rfl) ps

/-- Without a text there is no row, and what the row would set is as it was. -/
theorem readRows_elementRow {k : Element} {current : Shown} (later : List Shown)
    (set : Text → Shown) (hnone : set [] = current)
    (habove : ∀ t, (Row.element k t).above { current, later } = { current := set t, later })
    (t : Text) : readRows (elementRow k t) { current, later } = { current := set t, later } := by
  cases t with
  | nil =>
      rw [hnone]
      rfl
  | cons c rest =>
      exact habove (c :: rest)

theorem readRows_notesRows (t : Text) {current : Shown} (h : current.notes = [])
    (later : List Shown) :
    readRows (elementRow .notes t) { current, later } =
      { current := { current with notes := t }, later } :=
  readRows_elementRow later (fun t => { current with notes := t }) (by rw [← h]) (fun _ => rfl) t

theorem readRows_descriptionRows (t : Text) {current : Shown} (h : current.description = [])
    (later : List Shown) :
    readRows (elementRow .description t) { current, later } =
      { current := { current with description := t }, later } :=
  readRows_elementRow later (fun t => { current with description := t }) (by rw [← h])
    (fun _ => rfl) t

theorem later_readRows_rows (e : Endpoint) (b : Below) :
    (readRows (rows e) b).later = shown e :: b.later := by
  have hclosing : readRows [.fixed .closing] b = { later := b.later } := rfl
  have hsuccess : ∀ rs : List Row, .fixed .success :: (responseRows e.successResponse ++ rs) =
      (.fixed .success :: responseRows e.successResponse) ++ rs := fun rs => rfl
  rw [rows, readRows_cons, readRows_cons, hsuccess]
  simp only [readRows_append, hclosing]
  rw [readRows_exampleRows _ rfl, readRows_errorRows _ rfl, readRows_successRows,
    readRows_bodyParameterRows _ rfl, readRows_urlParameterRows _ rfl, readRows_notesRows _ rfl,
    readRows_descriptionRows _ rfl]
  rfl

theorem later_readRows_flatMap_rows (es : List Endpoint) (b : Below) :
    (readRows (es.flatMap rows) b).later = es.map shown ++ b.later := by
  induction es with
  | nil =>
      rfl
  | cons e rest ih =>
      rw [List.flatMap_cons, readRows_append, later_readRows_rows, ih]
      rfl

/-!
# Pages
-/

theorem isReadable_elementRow (k : Element) (t : Text) :
    ∀ r ∈ elementRow k t, r.IsReadable := by
  cases t with
  | nil =>
      exact List.forall_mem_nil _
  | cons c rest =>
      show ∀ r ∈ [Row.element k (c :: rest)], r.IsReadable
      rw [List.forall_mem_singleton]
      cases k with
      | description => exact List.cons_ne_nil c rest
      | notes | parameter | code => trivial

theorem isReadable_parameterRows (title : Fixed) (ps : List Parameter) :
    ∀ r ∈ parameterRows title ps, r.IsReadable := by
  unfold parameterRows
  split
  · exact List.forall_mem_nil _
  · rw [List.forall_mem_append, List.forall_mem_cons, List.forall_mem_map,
      List.forall_mem_singleton]
    exact ⟨⟨trivial, fun _ _ => trivial⟩, trivial⟩

theorem isReadable_responseRows (response : Response) :
    ∀ r ∈ responseRows response, r.IsReadable := by
  rw [responseRows, List.forall_mem_cons]
  exact ⟨trivial, isReadable_elementRow .code _⟩

theorem isReadable_errorRows (rs : List Response) : ∀ r ∈ errorRows rs, r.IsReadable := by
  unfold errorRows
  split
  · exact List.forall_mem_nil _
  · rw [List.forall_mem_cons, List.forall_mem_flatMap]
    exact ⟨trivial, fun response _ => isReadable_responseRows response⟩

theorem isReadable_exampleRows (ts : List Text) : ∀ r ∈ exampleRows ts, r.IsReadable := by
  unfold exampleRows
  split
  · exact List.forall_mem_nil _
  · rw [List.forall_mem_cons, List.forall_mem_map]
    exact ⟨trivial, fun _ _ => trivial⟩

theorem isReadable_rows {e : Endpoint} (h : ' ' ∉ e.method) : ∀ r ∈ rows e, r.IsReadable := by
  simp only [rows, List.forall_mem_cons, List.forall_mem_append]
  refine ⟨trivial, h, isReadable_elementRow _ _, isReadable_elementRow _ _,
    isReadable_parameterRows _ _, isReadable_parameterRows _ _, trivial,
    isReadable_responseRows _, isReadable_errorRows _, isReadable_exampleRows _, trivial, ?_⟩
  exact List.forall_mem_nil _

theorem parameterRows_eq_of_lines (title : Fixed) {ps qs : List Parameter}
    (h : ps.map Markdown.parameterLine = qs.map Markdown.parameterLine) :
    parameterRows title ps = parameterRows title qs := by
  have hlength : ps.length = qs.length := by
    simpa using congrArg List.length h
  have hitems := congrArg (List.map (Row.element .parameter)) h
  rw [List.map_map, List.map_map] at hitems
  unfold parameterRows
  rw [isEmpty_eq_of_length hlength]
  cases qs.isEmpty with
  | true =>
      rfl
  | false =>
      exact congrArg (fun items => Row.fixed title :: (items ++ [.fixed .listEnd])) hitems

theorem rows_eq_of_shown {e f : Endpoint} (h : shown e = shown f) : rows e = rows f := by
  simp only [shown, Shown.mk.injEq] at h
  rcases h with ⟨hmethod, hurl, hdescription, hnotes, hparams, hdata, hsuccess, herrors, hexamples⟩
  rw [rows, rows, hmethod, hurl, hdescription, hnotes, parameterRows_eq_of_lines _ hparams,
    parameterRows_eq_of_lines _ hdata, hsuccess, herrors, hexamples]

theorem document_eq_iff_shown {es fs : List Endpoint} (hes : ∀ e ∈ es, ' ' ∉ e.method)
    (hfs : ∀ f ∈ fs, ' ' ∉ f.method) :
    document es = document fs ↔ es.map shown = fs.map shown := by
  have hreadable : ∀ gs : List Endpoint, (∀ g ∈ gs, ' ' ∉ g.method) →
      ∀ r ∈ gs.flatMap rows, r.IsReadable := by
    intro gs hgs r hr
    rcases List.mem_flatMap.mp hr with ⟨g, hg, hmem⟩
    exact isReadable_rows (hgs g hg) r hmem
  constructor
  · intro h
    rw [document_eq_rows, document_eq_rows] at h
    have hrows : es.flatMap rows = fs.flatMap rows :=
      Row.flatMap_written_inj (hreadable es hes) (hreadable fs hfs) (List.append_cancel_left h)
    have hes' := later_readRows_flatMap_rows es {}
    have hfs' := later_readRows_flatMap_rows fs {}
    rw [List.append_nil] at hes' hfs'
    rw [← hes', hrows, hfs']
  · intro h
    rw [document_eq_rows, document_eq_rows,
      flatMap_eq_of_map_eq (fun _ _ => rows_eq_of_shown) h]

theorem space_not_mem_method_ofBody {name body : Text} {e : Endpoint}
    (h : Endpoint.ofBody name body = .ok e) : ' ' ∉ e.method := by
  rcases Endpoint.method_ofBody h with hmethod | ⟨verb, hmethod⟩
  · rw [hmethod]
    exact List.not_mem_nil
  · rw [hmethod]
    cases verb <;> decide

theorem document_tells_what_it_shows :
    (∀ name body e, Endpoint.ofBody name body = .ok e → ' ' ∉ e.method) ∧
    ∀ es fs : List Endpoint, (∀ e ∈ es, ' ' ∉ e.method) → (∀ f ∈ fs, ' ' ∉ f.method) →
      (document es = document fs ↔ es.map shown = fs.map shown) := by
  constructor
  · intro name body e h
    exact space_not_mem_method_ofBody h
  · intro es fs hes hfs
    exact document_eq_iff_shown hes hfs

/-- An endpoint with the content of an error response before an example call. -/
def keySearch : Endpoint where
  method := "POST".toList
  urlTemplate := "/keys]</h3>&#39;".toList
  description := "<em>NOTE:</em> finds keys".toList
  dataParams := [⟨"name".toList, true, "string".toList, "of the key".toList⟩]
  errorResponses := [⟨400, "none".toList⟩]
  examples := ["curl /keys".toList]

/-- The same endpoint with that content as an example call. -/
def keySearchMoved : Endpoint :=
  { keySearch with
    errorResponses := [⟨400, []⟩]
    examples := ["none".toList, "curl /keys".toList] }

theorem document_tells_what_it_shows_keySearch :
    (∀ e ∈ [keySearch], ' ' ∉ e.method) ∧ (∀ f ∈ [keySearchMoved], ' ' ∉ f.method) ∧
      document [keySearch] ≠ document [keySearchMoved] := by
  have hes : ∀ e ∈ [keySearch], ' ' ∉ e.method := by decide
  have hfs : ∀ f ∈ [keySearchMoved], ' ' ∉ f.method := by decide
  refine ⟨hes, hfs, ?_⟩
  intro h
  exact absurd ((document_tells_what_it_shows.right _ _ hes hfs).mp h) (by decide)

end Html
end EndpointDocs
