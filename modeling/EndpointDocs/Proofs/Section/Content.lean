import EndpointDocs.Proofs.Text.Ends
import EndpointDocs.Section.Content

/-!
# Content below a heading

What stands below a heading is the content of the section, as long as no blank lines stand at its
ends.  What stands behind the heading on the same line is the first line of the content.  No content
begins or ends with a blank line.
-/

namespace EndpointDocs

theorem Keyword.withoutHeading_append (k : Keyword) (rest : Text) :
    k.withoutHeading (k.heading ++ rest) = Text.trim rest := by
  rw [withoutHeading, Text.after?_append, Option.getD_some]

theorem Keyword.withoutHeading_heading (k : Keyword) : k.withoutHeading k.heading = [] := by
  have happend := k.withoutHeading_append []
  rwa [List.append_nil] at happend

theorem Keyword.mem_of_mem_withoutHeading (k : Keyword) {line : Text} {c : Char}
    (h : c ∈ k.withoutHeading line) : c ∈ line := by
  have hmem := Text.mem_of_mem_trim h
  cases hafter : Text.after? k.heading line with
  | none =>
      rw [hafter] at hmem
      exact hmem
  | some rest =>
      rw [hafter] at hmem
      rw [Text.after?_eq_some_iff.mp hafter]
      exact List.mem_append_right _ hmem

namespace Section

theorem content_heading (k : Keyword) (ls : List Text) :
    content k (k.heading :: ls) = Text.trimLines ls := by
  rw [content, k.withoutHeading_heading]
  exact Text.trimLines_cons_of_blank rfl ls

theorem content_heading_append (k : Keyword) {line : Text} (hblank : Text.allBlank line = false)
    (htrim : Text.trim line = line) {ls : List Text}
    (hlast : ∀ l ∈ ls.getLast?, Text.allBlank l = false) :
    content k ((k.heading ++ ' ' :: line) :: ls) = line :: ls := by
  have hline : k.withoutHeading (k.heading ++ ' ' :: line) = line := by
    rw [k.withoutHeading_append, Text.trim_cons_of_blank (by decide), htrim]
  rw [content, hline]
  apply Text.trimLines_eq_self
  · intro l hl
    cases hl
    exact hblank
  · intro l hl
    cases ls with
    | nil =>
        cases hl
        exact hblank
    | cons m rest =>
        rw [List.getLast?_cons_cons] at hl
        exact hlast l hl

theorem allBlank_head_content (k : Keyword) (ls : List Text) :
    ∀ l ∈ (content k ls).head?, Text.allBlank l = false := by
  cases ls with
  | nil =>
      intro l hl
      cases hl
  | cons line rest =>
      exact Text.allBlank_head_trimLines _

theorem allBlank_getLast_content (k : Keyword) (ls : List Text) :
    ∀ l ∈ (content k ls).getLast?, Text.allBlank l = false := by
  cases ls with
  | nil =>
      intro l hl
      cases hl
  | cons line rest =>
      exact Text.allBlank_getLast_trimLines _

theorem lineFeed_not_mem_content {k : Keyword} {ls : List Text} (h : ∀ l ∈ ls, '\n' ∉ l) :
    ∀ l ∈ content k ls, '\n' ∉ l := by
  intro l hl hfeed
  cases ls with
  | nil =>
      cases hl
  | cons line rest =>
      rcases List.mem_cons.mp (Text.mem_of_mem_trimLines hl) with rfl | hrest
      · exact h line List.mem_cons_self (k.mem_of_mem_withoutHeading hfeed)
      · exact h l (List.mem_cons_of_mem line hrest) hfeed

end Section
end EndpointDocs
