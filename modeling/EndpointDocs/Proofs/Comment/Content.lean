import EndpointDocs.Comment.PlainText
import EndpointDocs.Proofs.Text.Ends
import EndpointDocs.Proofs.Text.Lines

/-!
# What comments say

A comment is taken apart into its delimiters and what it says, by rules on how it begins and ends.
A line or a text that is put between delimiters is what the comment says.
-/

namespace EndpointDocs
namespace Comment

def ofLine (l : Text) : Text :=
  '/' :: '/' :: ' ' :: l

/-- A text as a block comment that begins on a line of its own. -/
def ofBlock (t : Text) : Text :=
  '/' :: '*' :: '\n' :: (t ++ ['*', '/'])

/-!
# Closing delimiters
-/

theorem withoutClosing_append_closing (t : Text) : withoutClosing (t ++ ['*', '/']) = t := by
  simp [withoutClosing]

theorem withoutClosing_eq_self {t : Text} (h : ∀ front, t ≠ front ++ ['*', '/']) :
    withoutClosing t = t := by
  unfold withoutClosing
  split
  · next rest hreverse =>
      refine absurd ?_ (h rest.reverse)
      rw [← List.reverse_reverse t, hreverse]
      simp
  · rfl

theorem withoutClosing_append_cons {c : Char} (hstar : c ≠ '*') (hslash : c ≠ '/')
    (front back : Text) :
    withoutClosing (front ++ c :: back) = front ++ c :: withoutClosing back := by
  by_cases hclosing : ∃ inside, back = inside ++ ['*', '/']
  · rcases hclosing with ⟨inside, hback⟩
    have hwhole : front ++ c :: back = (front ++ c :: inside) ++ ['*', '/'] := by
      simp [hback]
    rw [hwhole, withoutClosing_append_closing, hback, withoutClosing_append_closing]
  · have hback : ∀ inside, back ≠ inside ++ ['*', '/'] :=
      fun inside heq => hclosing ⟨inside, heq⟩
    rw [withoutClosing_eq_self hback, withoutClosing_eq_self]
    intro inside heq
    rcases List.append_eq_append_iff.mp heq with ⟨more, _, hmore⟩ | ⟨more, _, hmore⟩
    · cases more with
      | nil =>
          injection hmore with hc _
          exact hstar hc
      | cons d later =>
          injection hmore with _ hlater
          exact hback later hlater
    · cases more with
      | nil =>
          injection hmore with hc _
          exact hstar hc.symm
      | cons d later =>
          injection hmore with _ hlater
          cases later with
          | nil =>
              injection hlater with hc _
              exact hslash hc.symm
          | cons e last =>
              injection hlater with _ hlast
              simp at hlast

/-!
# Directives
-/

/-- What follows the slashes of a directive: the name of a tool, a colon, a small letter or digit,
and anything behind it. -/
def IsInstruction (t : Text) : Prop :=
  ∃ tool c rest, t = tool ++ ':' :: c :: rest ∧ tool ≠ [] ∧ (∀ d ∈ tool, isToolChar d = true) ∧
    isToolChar c = true

theorem isDirective_eq_true_iff {t : Text} : isDirective t = true ↔ IsInstruction t := by
  constructor
  · intro h
    unfold isDirective at h
    split at h
    · next d tool c rest htool hrest =>
        refine ⟨d :: tool, c, rest, ?_, by simp, ?_, h⟩
        · rw [← htool, ← hrest, List.takeWhile_append_dropWhile]
        · intro e he
          rw [← htool] at he
          exact List.mem_takeWhile_imp he
    · cases h
  · rintro ⟨tool, c, rest, rfl, hne, htool, hc⟩
    have hcolon : isToolChar ':' = false := by
      decide
    have htake : (tool ++ ':' :: c :: rest).takeWhile isToolChar = tool := by
      rw [List.takeWhile_append_of_pos htool, List.takeWhile_cons_of_neg (by simp [hcolon]),
        List.append_nil]
    have hdrop : (tool ++ ':' :: c :: rest).dropWhile isToolChar = ':' :: c :: rest := by
      rw [List.dropWhile_append_of_pos htool, List.dropWhile_cons_of_neg (by simp [hcolon])]
    rw [isDirective, htake, hdrop]
    cases tool with
    | nil => exact absurd rfl hne
    | cons d later => exact hc

/-!
# Content
-/

/-- The rules by which a comment says something, or nothing if it is a directive. -/
inductive Says : Text → Option Text → Prop where
  | directive {t : Text} : IsInstruction t → Says ('/' :: '/' :: t) none
  | spaced (t : Text) : Says ('/' :: '/' :: ' ' :: t) (some t)
  | line {t : Text} : (∀ rest, t ≠ ' ' :: rest) → ¬ IsInstruction t →
      Says ('/' :: '/' :: t) (some t)
  | closed (t : Text) : Says ('/' :: '*' :: (t ++ ['*', '/'])) (some t)
  | unclosed {t : Text} : (∀ front, t ≠ front ++ ['*', '/']) → Says ('/' :: '*' :: t) (some t)
  | bare {t : Text} : (∀ rest, t ≠ '/' :: '/' :: rest) → (∀ rest, t ≠ '/' :: '*' :: rest) →
      Says t (some t)

theorem says_inner? (raw : Text) : Says raw (inner? raw) := by
  unfold inner?
  split
  · next t =>
      exact Says.spaced t
  · next t hspace =>
      split
      · next h =>
          exact Says.directive (isDirective_eq_true_iff.mp h)
      · next h =>
          exact Says.line hspace (mt isDirective_eq_true_iff.mpr h)
  · next t =>
      by_cases hclosing : ∃ front, t = front ++ ['*', '/']
      · rcases hclosing with ⟨front, rfl⟩
        rw [withoutClosing_append_closing]
        exact Says.closed front
      · have hopen : ∀ front, t ≠ front ++ ['*', '/'] := fun front heq => hclosing ⟨front, heq⟩
        rw [withoutClosing_eq_self hopen]
        exact Says.unclosed hopen
  · next hspaced hline hblock =>
      exact Says.bare hline hblock

theorem contentLines_eq (raw : Text) :
    contentLines raw = ((inner? raw).toList.flatMap Text.lines).map Text.trimEnd := by
  rw [contentLines]
  cases inner? raw <;> simp

theorem trimEnd_of_mem_contentLines {raw l : Text} (h : l ∈ contentLines raw) :
    Text.trimEnd l = l := by
  rw [contentLines_eq] at h
  rcases List.mem_map.mp h with ⟨m, -, rfl⟩
  exact Text.trimEnd_trimEnd m

theorem lineFeed_not_mem_of_mem_contentLines {raw l : Text} (h : l ∈ contentLines raw) :
    '\n' ∉ l := by
  rw [contentLines_eq] at h
  rcases List.mem_map.mp h with ⟨m, hm, rfl⟩
  rcases List.mem_flatMap.mp hm with ⟨t, -, hline⟩
  exact fun hfeed => Text.lineFeed_not_mem_of_mem_lines hline (Text.mem_of_mem_trimEnd hfeed)

/-!
# Content of written comments
-/

theorem contentLines_ofLine {l : Text} (h : '\n' ∉ l) :
    contentLines (ofLine l) = [Text.trimEnd l] := by
  change (Text.lines l).map Text.trimEnd = [Text.trimEnd l]
  rw [Text.lines_eq_singleton h, List.map_singleton]

theorem flatMap_contentLines_ofLine {ls : List Text} (h : ∀ l ∈ ls, '\n' ∉ l) :
    (ls.map ofLine).flatMap contentLines = ls.map Text.trimEnd := by
  induction ls with
  | nil =>
      rfl
  | cons l rest ih =>
      rw [List.map_cons, List.flatMap_cons, contentLines_ofLine (h l (by simp)),
        ih fun m hm => h m (by simp [hm])]
      rfl

theorem contentLines_enclosed (t : Text) :
    contentLines ('/' :: '*' :: (t ++ ['*', '/'])) = (Text.lines t).map Text.trimEnd := by
  have hinner : inner? ('/' :: '*' :: (t ++ ['*', '/'])) = some t :=
    congrArg some (withoutClosing_append_closing t)
  rw [contentLines, hinner]

theorem contentLines_ofBlock (t : Text) :
    contentLines (ofBlock t) = [] :: (Text.lines t).map Text.trimEnd := by
  rw [ofBlock, ← List.cons_append, contentLines_enclosed, Text.lines_cons_lineFeed, List.map_cons]
  rfl

end Comment
end EndpointDocs
