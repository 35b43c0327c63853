import EndpointDocs.Comment.PlainText
import EndpointDocs.Proofs.Text.Ends
import Mathlib.Data.List.Destutter

/-!
# Blank lines of plain text

A line that is not empty separates the normal form of a list of lines into two parts that do not
influence each other: the blank runs before it, and those behind it.
-/

namespace EndpointDocs
namespace Comment

/-!
# Squeezing
-/

theorem squeeze_cons_of_ne_nil {line : Text} (h : line ≠ []) (gap : Bool) (later : List Text) :
    squeeze gap (line :: later) = line :: squeeze false later := by
  cases line with
  | nil => exact absurd rfl h
  | cons c rest => rfl

theorem squeeze_append_cons {line : Text} (h : line ≠ []) (gap : Bool)
    (before later : List Text) :
    squeeze gap (before ++ line :: later) = squeeze gap before ++ line :: squeeze false later := by
  induction before generalizing gap with
  | nil =>
      exact squeeze_cons_of_ne_nil h gap later
  | cons l rest ih =>
      by_cases hdrop : (l.isEmpty && gap) = true
      · simp only [List.cons_append, squeeze, hdrop, if_true]
        exact ih gap
      · simp only [List.cons_append, squeeze, hdrop]
        rw [ih l.isEmpty]
        rfl

theorem mem_of_mem_squeeze {gap : Bool} {ls : List Text} {l : Text} (h : l ∈ squeeze gap ls) :
    l ∈ ls := by
  induction ls generalizing gap with
  | nil =>
      exact h
  | cons m rest ih =>
      rw [squeeze] at h
      by_cases hdrop : (m.isEmpty && gap) = true
      · rw [if_pos hdrop] at h
        exact List.mem_cons_of_mem m (ih h)
      · rw [if_neg hdrop] at h
        rcases List.mem_cons.mp h with hl | hl
        · rw [hl]
          exact List.mem_cons_self
        · exact List.mem_cons_of_mem m (ih hl)

theorem squeeze_append_empty (gap : Bool) (ls : List Text) {back : List Text}
    (h : ∀ l ∈ back, l = []) :
    ∃ tail, squeeze gap (ls ++ back) = squeeze gap ls ++ tail ∧ ∀ l ∈ tail, l = [] := by
  induction ls generalizing gap with
  | nil =>
      exact ⟨squeeze gap back, rfl, fun l hl => h l (mem_of_mem_squeeze hl)⟩
  | cons line rest ih =>
      by_cases hdrop : (line.isEmpty && gap) = true
      · rcases ih gap with ⟨tail, hrest, htail⟩
        refine ⟨tail, ?_, htail⟩
        rw [List.cons_append, squeeze, if_pos hdrop, hrest, squeeze, if_pos hdrop]
      · rcases ih line.isEmpty with ⟨tail, hrest, htail⟩
        refine ⟨tail, ?_, htail⟩
        rw [List.cons_append, squeeze, if_neg hdrop, hrest, squeeze, if_neg hdrop,
          List.cons_append]

/-!
# Squeezing as the removal of repetitions

Squeezing takes away a line that is empty after an empty line, and the line before the list counts
as the first of its neighbours.
-/

/-- Two lines of which one at least is not empty. -/
def NotBothEmpty (first second : Text) : Prop :=
  first ≠ [] ∨ second ≠ []

instance : DecidableRel NotBothEmpty :=
  fun first second => inferInstanceAs (Decidable (first ≠ [] ∨ second ≠ []))

theorem destutter'_eq_cons_squeeze (line : Text) (ls : List Text) :
    ls.destutter' NotBothEmpty line = line :: squeeze line.isEmpty ls := by
  induction ls generalizing line with
  | nil =>
      rfl
  | cons l rest ih =>
      by_cases hdrop : (l.isEmpty && line.isEmpty) = true
      · have hboth : ¬ NotBothEmpty line l := by
          rw [Bool.and_eq_true, List.isEmpty_iff, List.isEmpty_iff] at hdrop
          rintro (hline | hl)
          · exact hline hdrop.right
          · exact hl hdrop.left
        rw [List.destutter'_cons_neg _ hboth, squeeze, if_pos hdrop, ih]
      · have hone : NotBothEmpty line l := by
          rw [Bool.and_eq_true, List.isEmpty_iff, List.isEmpty_iff, not_and_or] at hdrop
          exact hdrop.symm
        rw [List.destutter'_cons_pos _ hone, squeeze, if_neg hdrop, ih]

theorem squeeze_false_eq_destutter (ls : List Text) :
    squeeze false ls = ls.destutter NotBothEmpty := by
  cases ls with
  | nil =>
      rfl
  | cons l rest =>
      rw [List.destutter_cons', destutter'_eq_cons_squeeze, squeeze, Bool.and_false,
        if_neg Bool.false_ne_true]

theorem isChain_nil_cons_squeeze (ls : List Text) :
    ([] :: squeeze true ls).IsChain NotBothEmpty := by
  have hchain := List.isChain_destutter' NotBothEmpty ls []
  rwa [destutter'_eq_cons_squeeze] at hchain

theorem squeeze_eq_self {ls : List Text} (h : ([] :: ls).IsChain NotBothEmpty) :
    squeeze true ls = ls := by
  have hself : ls.destutter' NotBothEmpty [] = [] :: ls := List.destutter'_of_isChain_cons _ _ h
  rw [destutter'_eq_cons_squeeze] at hself
  injection hself

theorem squeeze_append (gap : Bool) (front back : List Text) :
    ∃ gap', squeeze gap (front ++ back) = squeeze gap front ++ squeeze gap' back := by
  induction front generalizing gap with
  | nil =>
      exact ⟨gap, rfl⟩
  | cons line rest ih =>
      by_cases hdrop : (line.isEmpty && gap) = true
      · rcases ih gap with ⟨gap', hrest⟩
        exact ⟨gap', by rw [List.cons_append, squeeze, if_pos hdrop, hrest, squeeze, if_pos hdrop]⟩
      · rcases ih line.isEmpty with ⟨gap', hrest⟩
        refine ⟨gap', ?_⟩
        rw [List.cons_append, squeeze, if_neg hdrop, hrest, squeeze, if_neg hdrop, List.cons_append]

/-!
# The normal form

No two lines that are left in a row are empty, so there is one empty line at the end if there are
any, and to drop it is to drop all.
-/

theorem normalLines_eq_dropEndWhile (ls : List Text) :
    normalLines ls = Text.dropEndWhile List.isEmpty (squeeze true ls) := by
  have hchain := isChain_nil_cons_squeeze ls
  rw [normalLines]
  cases hlast : (squeeze true ls).getLast? with
  | none =>
      rw [List.getLast?_eq_none_iff.mp hlast]
      rfl
  | some line =>
      rcases List.getLast?_eq_some_iff.mp hlast with ⟨front, hfront⟩
      rw [hfront] at hchain ⊢
      by_cases hempty : line = []
      · subst hempty
        have hfilled : ∀ l ∈ front.getLast?, l.isEmpty = false := by
          intro l hl
          have hmem : l ∈ ([] :: front).getLast? := by
            rw [List.getLast?_cons, Option.mem_def.mp hl]
            rfl
          rw [← List.cons_append, List.isChain_append] at hchain
          rcases hchain.right.right l hmem [] rfl with hne | hne
          · exact List.isEmpty_eq_false_iff.mpr hne
          · exact absurd rfl hne
        rw [List.dropLast_concat, Text.dropEndWhile_append_of_all _ (by simp),
          Text.dropEndWhile_eq_self hfilled]
        rfl
      · have hline : line.isEmpty = false := List.isEmpty_eq_false_iff.mpr hempty
        rw [Text.dropEndWhile_append_cons hline, Text.dropEndWhile_nil]
        simp [hline]

theorem normalLines_append_cons {line : Text} (h : line ≠ []) (before later : List Text) :
    normalLines (before ++ line :: later) =
      squeeze true before ++ line :: Text.dropEndWhile List.isEmpty (squeeze false later) := by
  have hline : List.isEmpty line = false := by
    simpa using h
  rw [normalLines_eq_dropEndWhile, squeeze_append_cons h, Text.dropEndWhile_append_cons hline]

/-- Empty lines at the ends do not count. -/
theorem normalLines_append_ends (ls : List Text) {front back : List Text}
    (hfront : ∀ l ∈ front, l = []) (hback : ∀ l ∈ back, l = []) :
    normalLines (front ++ (ls ++ back)) = normalLines ls := by
  have hstart : squeeze true (front ++ (ls ++ back)) = squeeze true (ls ++ back) := by
    induction front with
    | nil =>
        rfl
    | cons l rest ih =>
        rw [hfront l (by simp)]
        exact ih fun m hm => hfront m (by simp [hm])
  rcases squeeze_append_empty true ls hback with ⟨tail, hsplit, htail⟩
  have hempty : ∀ l ∈ tail, l.isEmpty = true := by
    intro l hl
    rw [htail l hl]
    rfl
  rw [normalLines_eq_dropEndWhile, normalLines_eq_dropEndWhile, hstart, hsplit,
    Text.dropEndWhile_append_of_all _ hempty]

/-- The normal form of lines that begin with one that is not empty, whatever empty lines stand at
the ends. -/
theorem normalLines_of_empty_ends {line : Text} (hline : line ≠ []) (before later back : List Text)
    (hbefore : ∀ l ∈ before, l = []) (hback : ∀ l ∈ back, l = []) :
    normalLines (before ++ line :: (later ++ back)) =
      line :: Text.dropEndWhile List.isEmpty (squeeze false later) := by
  have hends := normalLines_append_ends (line :: later) hbefore hback
  rw [List.cons_append] at hends
  rw [hends]
  exact normalLines_append_cons hline [] later

theorem plainText_of_normalLines {raws : List Text} {ls : List Text} (hne : ls ≠ [])
    (h : normalLines (raws.flatMap contentLines) = ls) :
    plainText raws = Text.unlines ls ++ ['\n'] := by
  rw [plainText, h]
  cases ls with
  | nil => exact absurd rfl hne
  | cons l rest => rfl

end Comment
end EndpointDocs
