import EndpointDocs.Proofs.Section.Content
import EndpointDocs.Proofs.Text.Lines
import EndpointDocs.Section.Fields

/-!
# Nothing but the heading and blank ends

The content of a section is one run of its lines: the line of the heading counts with what stands
behind the heading, and only blank lines stand before and behind the run.  As the run neither begins
nor ends with a blank line, it is the only one.

## Blank lines that do not matter

Below a heading that stands alone on its line, blank lines at both ends of a section change nothing
in what is read from it.  Those inside of a text belong to the text.
-/

namespace EndpointDocs

/-!
# Lines with blank lines around
-/

namespace Text

/-- Whether some lines are the inner ones with blank lines before and behind them, or with none. -/
def IsPadded (inner ls : List Text) : Prop :=
  ∃ front back, ls = front ++ inner ++ back ∧ (∀ l ∈ front, allBlank l = true) ∧
    ∀ l ∈ back, allBlank l = true

/-- What is left of some lines without the blank lines at both ends. -/
structure IsTrimmed (ls kept : List Text) : Prop where
  isPadded : IsPadded kept ls
  filled_head : ∀ l ∈ kept.head?, allBlank l = false
  filled_last : ∀ l ∈ kept.getLast?, allBlank l = false

theorem isPadded_trimLines (ls : List Text) : IsPadded (trimLines ls) ls := by
  rcases exists_eq_dropEndWhile_append allBlank (ls.dropWhile allBlank) with ⟨back, hrest, hback⟩
  refine ⟨ls.takeWhile allBlank, back, ?_, fun l hl => List.mem_takeWhile_imp hl, hback⟩
  rw [List.append_assoc, trimLines, ← hrest, List.takeWhile_append_dropWhile]

theorem trimLines_of_isPadded {inner ls : List Text} (h : IsPadded inner ls) :
    trimLines ls = trimLines inner := by
  rcases h with ⟨front, back, rfl, hfront, hback⟩
  rw [trimLines_append_of_blank _ hback]
  induction front with
  | nil =>
      rfl
  | cons l rest ih =>
      rw [List.cons_append, trimLines_cons_of_blank (hfront l (by simp))]
      exact ih fun m hm => hfront m (by simp [hm])

theorem trimLines_eq_iff {ls kept : List Text} : trimLines ls = kept ↔ IsTrimmed ls kept := by
  constructor
  · rintro rfl
    exact ⟨isPadded_trimLines ls, allBlank_head_trimLines ls, allBlank_getLast_trimLines ls⟩
  · intro h
    rw [trimLines_of_isPadded h.isPadded, trimLines_eq_self h.filled_head h.filled_last]

theorem IsPadded.cons_of_blank {inner ls : List Text} (h : IsPadded inner ls) {l : Text}
    (hl : allBlank l = true) : IsPadded inner (l :: ls) := by
  rcases h with ⟨front, back, rfl, hfront, hback⟩
  refine ⟨l :: front, back, rfl, ?_, hback⟩
  simpa [hl] using hfront

end Text

/-!
# The line of the heading
-/

/-- What stands behind the heading of a line that begins with it, and otherwise the whole line,
without the blanks at its ends. -/
inductive Keyword.Leaves (k : Keyword) : Text → Text → Prop
  | heading (rest : Text) : Leaves k (k.heading ++ rest) (Text.trim rest)
  | line {line : Text} : ¬ k.heading <+: line → Leaves k line (Text.trim line)

theorem Keyword.leaves_iff {k : Keyword} {line first : Text} :
    k.Leaves line first ↔ k.withoutHeading line = first := by
  constructor
  · intro h
    cases h with
    | heading rest =>
        exact k.withoutHeading_append rest
    | line hline =>
        have hnone : Text.after? k.heading line = none := by
          apply Option.eq_none_iff_forall_ne_some.mpr
          intro rest hrest
          exact hline ⟨rest, (Text.after?_eq_some_iff.mp hrest).symm⟩
        rw [withoutHeading, hnone, Option.getD_none]
  · rintro rfl
    rw [withoutHeading]
    cases hafter : Text.after? k.heading line with
    | some rest =>
        rw [Text.after?_eq_some_iff.mp hafter]
        exact .heading rest
    | none =>
        apply Leaves.line
        rintro ⟨rest, hrest⟩
        rw [Text.after?_eq_some_iff.mpr hrest.symm] at hafter
        cases hafter

/-!
# What is read from a section
-/

namespace Section

theorem content_eq_of_isPadded {k : Keyword} {line : Text} (hline : k.withoutHeading line = [])
    {inner ls : List Text} (h : Text.IsPadded inner ls) :
    content k (line :: ls) = Text.trimLines inner := by
  rw [content, hline]
  exact Text.trimLines_of_isPadded (h.cons_of_blank rfl)

/-- The content of a section is what its lines leave without the heading and the blank lines at both
ends.  Below a heading without text such blank lines do not matter, and no text loses others. -/
theorem content_loses_blank_ends_only (k : Keyword) (line : Text) :
    ∃ first, k.Leaves line first ∧
      (∀ ls kept, content k (line :: ls) = kept ↔ Text.IsTrimmed (first :: ls) kept) ∧
      (first = [] → ∀ inner ls ms, Text.IsPadded inner ls → Text.IsPadded inner ms →
        prose k (line :: ls) = prose k (line :: ms) ∧
        response k (line :: ls) = response k (line :: ms) ∧
        (k = .parameter → parameter? (line :: ls) = parameter? (line :: ms))) ∧
      ∀ ls kept, Text.IsTrimmed (first :: ls) kept →
        prose k (line :: ls) = Text.unlines kept ∧
        (kept ≠ [] → (∀ l ∈ kept, '\n' ∉ l) → Text.lines (prose k (line :: ls)) = kept) := by
  refine ⟨k.withoutHeading line, Keyword.leaves_iff.mpr rfl, ?_, ?_, ?_⟩
  · intro ls kept
    exact Text.trimLines_eq_iff
  · intro hline inner ls ms hls hms
    have hcontent : content k (line :: ls) = content k (line :: ms) := by
      rw [content_eq_of_isPadded hline hls, content_eq_of_isPadded hline hms]
    refine ⟨by rw [prose, prose, hcontent], by rw [response, response, hcontent], ?_⟩
    rintro rfl
    rw [parameter?, parameter?, hcontent]
  · intro ls kept hkept
    have hprose : prose k (line :: ls) = Text.unlines kept := by
      rw [prose, content, Text.trimLines_eq_iff.mpr hkept]
    refine ⟨hprose, ?_⟩
    intro hne hlines
    rw [hprose, Text.lines_unlines hlines hne]

theorem content_loses_blank_ends_only_greeting :
    prose .description ["Description ".toList, [], " \t".toList, "Hello.".toList, [],
        "World.".toList, []] =
      prose .description ["Description ".toList, "Hello.".toList, [], "World.".toList] ∧
    Text.lines (prose .description ["Description ".toList, "Hello.".toList, [],
        "World.".toList]) = ["Hello.".toList, [], "World.".toList] ∧
    parameter? ["Parameter".toList, [], "id, required".toList, "The id.".toList, "  ".toList] =
      parameter? ["Parameter".toList, "id, required".toList, "The id.".toList] := by
  let greeting := ["Hello.".toList, [], "World.".toList]
  let signature := ["id, required".toList, "The id.".toList]
  rcases content_loses_blank_ends_only .description "Description ".toList with
    ⟨first, hfirst, -, hsame, hkept⟩
  rcases content_loses_blank_ends_only .parameter "Parameter".toList with
    ⟨second, hsecond, -, hsameParameter, -⟩
  have hfirstNil : first = [] := by
    rw [← Keyword.leaves_iff.mp hfirst]
    decide
  have hsecondNil : second = [] := by
    rw [← Keyword.leaves_iff.mp hsecond]
    decide
  have hself : ∀ ls : List Text, Text.IsPadded ls ls :=
    fun ls => ⟨[], [], by simp, by simp, by simp⟩
  have hgreeting : Text.IsPadded greeting ([[], " \t".toList] ++ greeting ++ [[]]) :=
    ⟨_, _, rfl, by decide, by decide⟩
  have hsignature : Text.IsPadded signature ([[]] ++ signature ++ ["  ".toList]) :=
    ⟨_, _, rfl, by decide, by decide⟩
  have htrimmed : Text.IsTrimmed (first :: greeting) greeting := by
    rw [hfirstNil]
    exact ⟨(hself greeting).cons_of_blank rfl, by decide, by decide⟩
  exact ⟨(hsame hfirstNil _ _ _ hgreeting (hself greeting)).left,
    (hkept _ _ htrimmed).right (by decide) (by decide),
    (hsameParameter hsecondNil _ _ _ hsignature (hself signature)).right.right rfl⟩

end Section
end EndpointDocs
