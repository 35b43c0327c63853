import EndpointDocs.Proofs.Section.BlankEnds
import EndpointDocs.Proofs.Section.Keyword

/-!
# What an endpoint takes from each kind of section

Which field a section sets or adds to depends on its kind alone.  So a field that sections set is
told by the last section of its kind, a field that sections add to by all sections of its kind in
order, and sections of different kinds may change places.

## Malformed sections

Only response sections can be malformed.  The first of them ends the reading with its error.
-/

namespace EndpointDocs
namespace Section

/-- The lines of the sections of a kind, in order. -/
def ofKind (k : Keyword) (ps : List (Keyword × List Text)) : List (List Text) :=
  (ps.filter fun p => p.1 = k).map Prod.snd

/-- What the last section of some lines gives, or `d` if there is none. -/
def lastOr {β : Type} (give : List Text → β) (d : β) (sections : List (List Text)) : β :=
  (sections.getLast?.map give).getD d

/-- The verb and the URL on the first line of a section. -/
def request? (ls : List Text) : Option (Text × Text) :=
  (ls.head?.bind RequestLine.find?).map fun r => (r.verb.text, r.url)

/-- The error of a response section without a status code. -/
def fault? (p : Keyword × List Text) : Option SectionError :=
  if p.1 = .successResponse ∨ p.1 = .errorResponse then
    match response p.1 p.2 with
    | .ok _ => none
    | .error problem => some problem
  else none

theorem ofKind_append (k : Keyword) (ps qs : List (Keyword × List Text)) :
    ofKind k (ps ++ qs) = ofKind k ps ++ ofKind k qs := by
  rw [ofKind, List.filter_append, List.map_append, ofKind, ofKind]

theorem lastOr_append {β : Type} (give : List Text → β) (d : β) (ss ts : List (List Text)) :
    lastOr give d (ss ++ ts) = lastOr give (lastOr give d ss) ts := by
  rw [lastOr, lastOr, lastOr, List.getLast?_append]
  cases ts.getLast? <;> rfl

theorem content_of_response {k : Keyword} {ls : List Text} {r : Response}
    (h : response k ls = .ok r) : r.content = Text.unlines (content k ls).tail := by
  rw [response] at h
  split at h
  · injection h with h
    rw [← h]
  · cases h

theorem mem_of_mem_ofKind {k : Keyword} {ls : List Text} {ps : List (Keyword × List Text)}
    (h : ls ∈ ofKind k ps) : (k, ls) ∈ ps := by
  simpa [ofKind] using h

theorem ofKind_exchange {p q : Keyword × List Text} (h : p.1 ≠ q.1) (k : Keyword)
    (before after : List (Keyword × List Text)) :
    ofKind k (before ++ q :: p :: after) = ofKind k (before ++ p :: q :: after) := by
  have hpair : ofKind k [q, p] = ofKind k [p, q] := by
    by_cases hp : p.1 = k
    · have hq : q.1 ≠ k := fun hq => h (hp.trans hq.symm)
      simp [ofKind, hp, hq]
    · simp [ofKind, List.filter_cons, hp]
  have hback : ofKind k (q :: p :: after) = ofKind k (p :: q :: after) := by
    calc
      ofKind k ([q, p] ++ after) = ofKind k [q, p] ++ ofKind k after := ofKind_append k _ _
      _ = ofKind k [p, q] ++ ofKind k after := by rw [hpair]
      _ = ofKind k ([p, q] ++ after) := (ofKind_append k _ _).symm
  rw [ofKind_append, ofKind_append, hback]

/-- There is a section of a kind if some line opens one. -/
theorem ofKind_pieces_eq_nil_iff {opening : Text → Option Keyword} {body : List Text}
    {k : Keyword} : ofKind k (pieces opening body) = [] ↔ ∀ l ∈ body, opening l ≠ some k := by
  rw [ofKind, List.map_eq_nil_iff, List.filter_eq_nil_iff]
  constructor
  · intro hnone l hl hopen
    rcases exists_piece_iff.mpr ⟨l, hl, hopen⟩ with ⟨p, hp, hk⟩
    exact hnone p hp (by simpa using hk)
  · intro hnone p hp hk
    rcases exists_piece_iff.mp ⟨p, hp, by simpa using hk⟩ with ⟨l, hl, hopen⟩
    exact hnone l hl hopen

end Section

namespace Endpoint

open Section

/-- An endpoint is what another becomes by sections, told field by field. -/
structure Gathers (start : Endpoint) (ps : List (Keyword × List Text)) (e : Endpoint) : Prop where
  name : e.name = start.name
  description : e.description =
    lastOr (prose .description) start.description (ofKind .description ps)
  request : some (e.method, e.urlTemplate) =
    lastOr request? (some (start.method, start.urlTemplate)) (ofKind .method ps)
  urlParams : e.urlParams = start.urlParams ++ (ofKind .parameter ps).filterMap parameter?
  dataParams : e.dataParams = start.dataParams
  successResponse : .ok e.successResponse =
    lastOr (response .successResponse) (.ok start.successResponse) (ofKind .successResponse ps)
  errorResponses : e.errorResponses.map .ok =
    start.errorResponses.map .ok ++ (ofKind .errorResponse ps).map (response .errorResponse)
  examples : e.examples = start.examples ++ (ofKind .exampleCall ps).map (prose .exampleCall)
  notes : e.notes = lastOr (prose .notes) start.notes (ofKind .notes ps)

/-!
# One section
-/

theorem withSection_eq_error_iff {e : Endpoint} {p : Keyword × List Text}
    {problem : SectionError} :
    e.withSection p.1 p.2 = .error problem ↔ fault? p = some problem := by
  rcases p with ⟨k, ls⟩
  cases k with
  | method | description | notes | exampleCall =>
      simp [withSection, fault?]
  | parameter =>
      cases hp : parameter? ls <;> simp [withSection, fault?, hp]
  | successResponse =>
      cases hr : response .successResponse ls <;> simp [withSection, fault?, hr]
  | errorResponse =>
      cases hr : response .errorResponse ls <;> simp [withSection, fault?, hr]

theorem gathers_of_withSection {e e' : Endpoint} {p : Keyword × List Text}
    (hrequest : p.1 = .method → (request? p.2).isSome)
    (h : e.withSection p.1 p.2 = .ok e') : e.Gathers [p] e' := by
  rcases p with ⟨k, ls⟩
  cases k with
  | description | notes | exampleCall =>
      injection h with h
      subst h
      constructor <;> simp [ofKind, lastOr]
  | method =>
      injection h with h
      subst h
      have hsome := hrequest rfl
      cases hr : ls.head?.bind RequestLine.find? with
      | none =>
          simp [request?, hr] at hsome
      | some r =>
          constructor <;> simp [withRequest, ofKind, lastOr, request?, hr]
  | parameter =>
      cases hp : parameter? ls with
      | none =>
          simp only [withSection, hp] at h
          injection h with h
          subst h
          constructor <;> simp [ofKind, lastOr, hp]
      | some parameter =>
          simp only [withSection, hp] at h
          injection h with h
          subst h
          constructor <;> simp [ofKind, lastOr, hp]
  | successResponse =>
      cases hr : response .successResponse ls with
      | error problem =>
          simp [withSection, hr] at h
      | ok r =>
          simp only [withSection, hr] at h
          injection h with h
          subst h
          constructor <;> simp [ofKind, lastOr, hr]
  | errorResponse =>
      cases hr : response .errorResponse ls with
      | error problem =>
          simp [withSection, hr] at h
      | ok r =>
          simp only [withSection, hr] at h
          injection h with h
          subst h
          constructor <;> simp [ofKind, lastOr, hr]

/-!
# All sections
-/

namespace Gathers

theorem refl (e : Endpoint) : e.Gathers [] e := by
  constructor <;> simp [ofKind, lastOr]

theorem append {start e e' : Endpoint} {ps qs : List (Keyword × List Text)}
    (h : start.Gathers ps e) (h' : e.Gathers qs e') : start.Gathers (ps ++ qs) e' where
  name := h'.name.trans h.name
  description := by rw [h'.description, h.description, ofKind_append, lastOr_append]
  request := by rw [h'.request, h.request, ofKind_append, lastOr_append]
  urlParams := by
    rw [h'.urlParams, h.urlParams, ofKind_append, List.filterMap_append, List.append_assoc]
  dataParams := h'.dataParams.trans h.dataParams
  successResponse := by
    rw [h'.successResponse, h.successResponse, ofKind_append, lastOr_append]
  errorResponses := by
    rw [h'.errorResponses, h.errorResponses, ofKind_append, List.map_append, List.append_assoc]
  examples := by
    rw [h'.examples, h.examples, ofKind_append, List.map_append, List.append_assoc]
  notes := by rw [h'.notes, h.notes, ofKind_append, lastOr_append]

theorem unique {start e e' : Endpoint} {ps : List (Keyword × List Text)}
    (h : start.Gathers ps e) (h' : start.Gathers ps e') : e = e' := by
  have hrequest := h.request.trans h'.request.symm
  have hsuccess := h.successResponse.trans h'.successResponse.symm
  have herrors : e.errorResponses = e'.errorResponses :=
    List.map_injective_iff.mpr (fun _ _ heq => Except.ok.inj heq)
      (h.errorResponses.trans h'.errorResponses.symm)
  rw [Option.some.injEq, Prod.mk.injEq] at hrequest
  rw [Except.ok.injEq] at hsuccess
  have hname := h.name.trans h'.name.symm
  have hdescription := h.description.trans h'.description.symm
  have hparams := h.urlParams.trans h'.urlParams.symm
  have hdata := h.dataParams.trans h'.dataParams.symm
  have hexamples := h.examples.trans h'.examples.symm
  have hnotes := h.notes.trans h'.notes.symm
  cases e
  cases e'
  simp_all only

theorem congr {start e : Endpoint} {ps qs : List (Keyword × List Text)}
    (h : start.Gathers ps e) (hkinds : ∀ k, ofKind k qs = ofKind k ps) : start.Gathers qs e := by
  rcases h with ⟨hname, hdescription, hrequest, hparams, hdata, hsuccess, herrors, hexamples, hnotes⟩
  simp only [← hkinds] at *
  exact ⟨hname, hdescription, hrequest, hparams, hdata, hsuccess, herrors, hexamples, hnotes⟩

end Gathers

theorem withPieces_eq_error_iff {e : Endpoint} {ps : List (Keyword × List Text)}
    {problem : SectionError} :
    e.withPieces ps = .error problem ↔ ps.findSome? fault? = some problem := by
  induction ps generalizing e with
  | nil =>
      simp [withPieces]
  | cons p rest ih =>
      rw [withPieces]
      cases hp : e.withSection p.1 p.2 with
      | error found =>
          have hfound : fault? p = some found := withSection_eq_error_iff.mp hp
          simp [hfound]
      | ok next =>
          have hnone : fault? p = none := by
            cases hproblem : fault? p with
            | none =>
                rfl
            | some other =>
                rw [withSection_eq_error_iff.mpr hproblem] at hp
                cases hp
          rw [List.findSome?_cons, hnone]
          exact ih

theorem gathers_of_withPieces {e e' : Endpoint} {ps : List (Keyword × List Text)}
    (hrequest : ∀ p ∈ ps, p.1 = .method → (request? p.2).isSome)
    (h : e.withPieces ps = .ok e') : e.Gathers ps e' := by
  induction ps generalizing e with
  | nil =>
      injection h with h
      subst h
      exact Gathers.refl e
  | cons p rest ih =>
      rw [withPieces] at h
      cases hp : e.withSection p.1 p.2 with
      | error problem =>
          simp [hp] at h
      | ok next =>
          simp only [hp] at h
          have hfirst : e.Gathers [p] next :=
            gathers_of_withSection (hrequest p (by simp)) hp
          exact hfirst.append (ih (fun q hq => hrequest q (by simp [hq])) h)

theorem withPieces_eq_ok_iff {e e' : Endpoint} {ps : List (Keyword × List Text)}
    (hrequest : ∀ p ∈ ps, p.1 = .method → (request? p.2).isSome) :
    e.withPieces ps = .ok e' ↔ ps.findSome? fault? = none ∧ e.Gathers ps e' := by
  constructor
  · intro h
    refine ⟨?_, gathers_of_withPieces hrequest h⟩
    cases hproblem : ps.findSome? fault? with
    | none =>
        rfl
    | some problem =>
        rw [withPieces_eq_error_iff.mpr hproblem] at h
        cases h
  · rintro ⟨hsound, hgathers⟩
    cases h : e.withPieces ps with
    | error problem =>
        rw [withPieces_eq_error_iff.mp h] at hsound
        cases hsound
    | ok next =>
        rw [(gathers_of_withPieces hrequest h).unique hgathers]

/-!
# The sections of a body
-/

theorem request?_of_isPiece {p : Keyword × List Text} (h : IsPiece Keyword.ofLine? p)
    (hmethod : p.1 = .method) : (request? p.2).isSome := by
  rcases h with ⟨first, inner, hlines, hfirst, -⟩
  rw [hmethod] at hfirst
  rw [request?, hlines, List.head?_cons, Option.bind_some, Option.isSome_map]
  exact Keyword.opens_of_ofLine? hfirst

theorem ofBody_eq_ok_iff {name body : Text} {e : Endpoint} :
    ofBody name body = .ok e ↔
      (pieces Keyword.ofLine? (Text.lines body)).findSome? fault? = none ∧
        { name : Endpoint }.Gathers (pieces Keyword.ofLine? (Text.lines body)) e := by
  rw [ofBody_eq_withPieces]
  exact withPieces_eq_ok_iff fun p hp => request?_of_isPiece (isPiece_of_mem_pieces hp)

theorem name_ofBody {name body : Text} {e : Endpoint} (h : ofBody name body = .ok e) :
    e.name = name :=
  (ofBody_eq_ok_iff.mp h).right.name

theorem method_ofBody {name body : Text} {e : Endpoint} (h : ofBody name body = .ok e) :
    e.method = [] ∨ ∃ verb : Verb, e.method = verb.text := by
  have hrequest := (ofBody_eq_ok_iff.mp h).right.request
  unfold lastOr at hrequest
  cases hlast : (ofKind .method (pieces Keyword.ofLine? (Text.lines body))).getLast? with
  | none =>
      rw [hlast] at hrequest
      injection hrequest with hpair
      injection hpair with hmethod _
      exact Or.inl hmethod
  | some ls =>
      rw [hlast] at hrequest
      rcases Option.map_eq_some_iff.mp hrequest.symm with ⟨r, -, hr⟩
      injection hr with hmethod _
      exact Or.inr ⟨r.verb, hmethod.symm⟩

/-- The lines of a body in which two neighbouring sections have changed places have the same
sections, these two exchanged. -/
theorem pieces_lines_exchange {body : Text} {before after : List (Keyword × List Text)}
    {p q : Keyword × List Text}
    (h : pieces Keyword.ofLine? (Text.lines body) = before ++ p :: q :: after) :
    pieces Keyword.ofLine? (Text.lines (Text.unlines
      (((Text.lines body).takeWhile fun l => (Keyword.ofLine? l).isNone) ++
        (before ++ q :: p :: after).flatMap Prod.snd))) = before ++ q :: p :: after := by
  let front := (Text.lines body).takeWhile fun l => (Keyword.ofLine? l).isNone
  have hperm : (before ++ q :: p :: after).Perm (before ++ p :: q :: after) :=
    (List.Perm.swap p q after).append_left before
  have hpieces : ∀ r ∈ before ++ q :: p :: after, IsPiece Keyword.ofLine? r := by
    intro r hr
    rw [hperm.mem_iff, ← h] at hr
    exact isPiece_of_mem_pieces hr
  have hfront : ∀ l ∈ front, Keyword.ofLine? l = none := by
    intro l hl
    simpa using List.mem_takeWhile_imp hl
  have hlines : ∀ l ∈ front ++ (before ++ q :: p :: after).flatMap Prod.snd, '\n' ∉ l := by
    intro l hl
    have hl' : l ∈ Text.lines body := by
      rw [← takeWhile_append_flatMap_pieces Keyword.ofLine? (Text.lines body), h]
      exact ((hperm.flatMap_right Prod.snd).append_left front).mem_iff.mp hl
    exact Text.lineFeed_not_mem_of_mem_lines hl'
  have hne : front ++ (before ++ q :: p :: after).flatMap Prod.snd ≠ [] := by
    rcases hpieces q (by simp) with ⟨first, inner, hq, -⟩
    simp [hq]
  rw [Text.lines_unlines hlines hne, pieces_append_of_none hfront, pieces_flatMap hpieces]

theorem ofBody_exchange {name body : Text} {e : Endpoint}
    {before after : List (Keyword × List Text)} {p q : Keyword × List Text}
    (hbody : pieces Keyword.ofLine? (Text.lines body) = before ++ p :: q :: after)
    (hkinds : p.1 ≠ q.1) (h : ofBody name body = .ok e) :
    ofBody name (Text.unlines
      (((Text.lines body).takeWhile fun l => (Keyword.ofLine? l).isNone) ++
        (before ++ q :: p :: after).flatMap Prod.snd)) = .ok e := by
  rw [ofBody_eq_ok_iff, hbody] at h
  rcases h with ⟨hsound, hgathers⟩
  rw [ofBody_eq_ok_iff, pieces_lines_exchange hbody]
  refine ⟨?_, hgathers.congr fun k => ofKind_exchange hkinds k before after⟩
  have hperm : (before ++ q :: p :: after).Perm (before ++ p :: q :: after) :=
    (List.Perm.swap p q after).append_left before
  rw [List.findSome?_eq_none_iff] at hsound ⊢
  intro r hr
  exact hsound r (hperm.mem_iff.mp hr)

theorem ofBody_kind_by_kind (name body : Text) :
    let ls := Text.lines body
    let front := ls.takeWhile fun l => (Keyword.ofLine? l).isNone
    let sections := (cluster Keyword.ofLine? ls).map fun s => (s.keyword, s.lines ls)
    (∀ problem, ofBody name body = .error problem ↔
      sections.findSome? fault? = some problem) ∧
    (∀ e, ofBody name body = .ok e ↔
      sections.findSome? fault? = none ∧ { name : Endpoint }.Gathers sections e) ∧
    body = Text.unlines (front ++ sections.flatMap Prod.snd) ∧
    ∀ before p q after e, sections = before ++ p :: q :: after → p.1 ≠ q.1 →
      ofBody name body = .ok e →
      ofBody name (Text.unlines (front ++ (before ++ q :: p :: after).flatMap Prod.snd)) =
        .ok e := by
  intro ls front sections
  have hsections : sections = pieces Keyword.ofLine? ls := map_cluster Keyword.ofLine? ls
  rw [hsections]
  refine ⟨?_, ?_, ?_, ?_⟩
  · intro problem
    rw [ofBody_eq_withPieces]
    exact withPieces_eq_error_iff
  · intro e
    exact ofBody_eq_ok_iff
  · rw [takeWhile_append_flatMap_pieces, Text.unlines_lines]
  · intro before p q after e hbody hkinds h
    exact ofBody_exchange hbody hkinds h

/-- A body in which the notes stand before an example call. -/
def itemBody : Text :=
  "GET /x\nNotes\nCached.\nExample\n  curl /x".toList

def item : Endpoint where
  name := "item".toList
  method := "GET".toList
  urlTemplate := "/x".toList
  examples := ["  curl /x".toList]
  notes := "Cached.".toList

theorem ofBody_kind_by_kind_item :
    ofBody "item".toList itemBody = .ok item ∧
      ofBody "item".toList "GET /x\nExample\n  curl /x\nNotes\nCached.".toList = .ok item := by
  have hitem : ofBody "item".toList itemBody = .ok item := by
    decide +kernel
  have hexchange := (ofBody_kind_by_kind "item".toList itemBody).right.right.right
    [(.method, ["GET /x".toList])] (.notes, ["Notes".toList, "Cached.".toList])
    (.exampleCall, ["Example".toList, "  curl /x".toList]) [] item
    (by decide +kernel) (by decide) hitem
  have hbody : Text.unlines (((Text.lines itemBody).takeWhile fun l => (Keyword.ofLine? l).isNone) ++
      [["GET /x".toList], ["Example".toList, "  curl /x".toList],
        ["Notes".toList, "Cached.".toList]].flatten) =
      "GET /x\nExample\n  curl /x\nNotes\nCached.".toList := by
    decide +kernel
  refine ⟨hitem, ?_⟩
  rw [← hbody]
  exact hexchange

end Endpoint
end EndpointDocs
