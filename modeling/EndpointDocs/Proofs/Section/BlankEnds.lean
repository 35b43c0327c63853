import EndpointDocs.Proofs.Section.Pieces
import EndpointDocs.Proofs.Text.Ends
import EndpointDocs.Proofs.Text.Lines

/-!
# Empty lines at the ends of a body

Empty lines open no section, and the content of a section does not hold those at its end.  So a body
says the same with empty lines before and behind it.
-/

namespace EndpointDocs

theorem Keyword.ofLine?_of_empty {ls : List Text} (h : ∀ l ∈ ls, l = []) :
    ∀ l ∈ ls, ofLine? l = none := by
  intro l hl
  rw [h l hl]
  rfl

namespace Section

theorem content_append_empty (k : Keyword) (line : Text) (inner : List Text) {back : List Text}
    (h : ∀ l ∈ back, l = []) : content k (line :: (inner ++ back)) = content k (line :: inner) := by
  have hblank : ∀ l ∈ back, Text.allBlank l = true := by
    intro l hl
    rw [h l hl]
    rfl
  exact Text.trimLines_append_of_blank (k.withoutHeading line :: inner) hblank

/-- Of empty lines behind a body, a section takes in some or none. -/
theorem exists_takeWhile_append (p : Text → Bool) (rest : List Text) {back : List Text}
    (h : ∀ l ∈ back, l = []) :
    ∃ tail, (rest ++ back).takeWhile p = rest.takeWhile p ++ tail ∧ ∀ l ∈ tail, l = [] := by
  induction rest with
  | nil =>
      refine ⟨back.takeWhile p, rfl, ?_⟩
      intro l hl
      exact h l ((List.takeWhile_sublist p).subset hl)
  | cons line later ih =>
      rcases ih with ⟨tail, htake, htail⟩
      by_cases hline : p line = true
      · refine ⟨tail, ?_, htail⟩
        rw [List.cons_append, List.takeWhile_cons_of_pos hline, htake,
          List.takeWhile_cons_of_pos hline, List.cons_append]
      · refine ⟨[], ?_, by simp⟩
        rw [List.cons_append, List.takeWhile_cons_of_neg hline, List.takeWhile_cons_of_neg hline,
          List.append_nil]

end Section

namespace Endpoint

theorem withSection_append_empty (e : Endpoint) (k : Keyword) (line : Text) (inner : List Text)
    {back : List Text} (h : ∀ l ∈ back, l = []) :
    e.withSection k (line :: (inner ++ back)) = e.withSection k (line :: inner) := by
  cases k with
  | method =>
      rfl
  | description | notes | exampleCall | parameter | successResponse | errorResponse =>
      simp only [withSection, Section.prose, Section.parameter?, Section.response,
        Section.content_append_empty _ line inner h]

theorem withPieces_append_empty (e : Endpoint) (body : List Text) {back : List Text}
    (h : ∀ l ∈ back, l = []) :
    e.withPieces (Section.pieces Keyword.ofLine? (body ++ back)) =
      e.withPieces (Section.pieces Keyword.ofLine? body) := by
  induction body generalizing e with
  | nil =>
      have hback := Section.pieces_append_of_none (Keyword.ofLine?_of_empty h) []
      rw [List.append_nil] at hback
      rw [List.nil_append, hback]
  | cons line rest ih =>
      rw [List.cons_append]
      cases hline : Keyword.ofLine? line with
      | none =>
          rw [Section.pieces, hline, Section.pieces, hline]
          exact ih e
      | some k =>
          rcases Section.exists_takeWhile_append (fun l => (Keyword.ofLine? l).isNone) rest h with
            ⟨tail, htake, htail⟩
          rw [Section.pieces_cons hline, Section.pieces_cons hline, htake, withPieces, withPieces,
            withSection_append_empty e k line _ htail]
          cases e.withSection k (line :: rest.takeWhile fun l => (Keyword.ofLine? l).isNone) with
          | ok e' => exact ih e'
          | error problem => rfl

theorem ofBody_unlines (name : Text) {ls : List Text} (h : ∀ l ∈ ls, '\n' ∉ l) :
    ofBody name (Text.unlines ls) =
      withPieces { name } (Section.pieces Keyword.ofLine? ls) := by
  rw [ofBody_eq_withPieces]
  cases ls with
  | nil =>
      rfl
  | cons l rest =>
      rw [Text.lines_unlines h (by simp)]

theorem ofBody_of_empty_ends (name : Text) (front back : List Text) {body : List Text}
    (hbody : ∀ l ∈ body, '\n' ∉ l) (hfront : ∀ l ∈ front, l = []) (hback : ∀ l ∈ back, l = []) :
    ofBody name (Text.unlines (front ++ (body ++ back))) = ofBody name (Text.unlines body) := by
  have hall : ∀ l ∈ front ++ (body ++ back), '\n' ∉ l := by
    intro l hl
    rcases List.mem_append.mp hl with hl | hl
    · rw [hfront l hl]
      simp
    · rcases List.mem_append.mp hl with hl | hl
      · exact hbody l hl
      · rw [hback l hl]
        simp
  rw [ofBody_unlines name hall, ofBody_unlines name hbody,
    Section.pieces_append_of_none (Keyword.ofLine?_of_empty hfront),
    withPieces_append_empty _ _ hback]

end Endpoint
end EndpointDocs
