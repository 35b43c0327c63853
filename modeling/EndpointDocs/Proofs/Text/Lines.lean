import EndpointDocs.Text.Blank

/-!
# Lines

Cutting a text into lines and putting lines one under the other undo each other, as long as there is
a line and no line holds a line feed.  Where two texts meet, the last line of the first and the
first line of the second become one.
-/

namespace EndpointDocs
namespace Text

/-!
# Lines one under the other
-/

@[simp] theorem unlines_nil : unlines [] = [] := rfl

@[simp] theorem unlines_singleton (l : Text) : unlines [l] = l := by
  simp [unlines]

theorem unlines_cons {ls : List Text} (h : ls ≠ []) (l : Text) :
    unlines (l :: ls) = l ++ '\n' :: unlines ls := by
  simp [unlines, List.intercalate_cons_of_ne_nil h]

theorem unlines_append {ls ms : List Text} (hls : ls ≠ []) (hms : ms ≠ []) :
    unlines (ls ++ ms) = unlines ls ++ '\n' :: unlines ms := by
  induction ls with
  | nil =>
      exact absurd rfl hls
  | cons l rest ih =>
      cases rest with
      | nil =>
          simp [unlines_cons hms]
      | cons m later =>
          have hcons : unlines (l :: m :: later) = l ++ '\n' :: unlines (m :: later) :=
            unlines_cons (by simp) l
          rw [List.cons_append, unlines_cons (by simp), ih (by simp), hcons]
          simp

theorem mem_unlines_of_mem {ls : List Text} {l : Text} {c : Char} (hl : l ∈ ls) (hc : c ∈ l) :
    c ∈ unlines ls := by
  induction ls with
  | nil =>
      cases hl
  | cons m rest ih =>
      cases rest with
      | nil =>
          rw [List.mem_singleton] at hl
          rw [unlines_singleton, ← hl]
          exact hc
      | cons n later =>
          rw [unlines_cons (by simp)]
          rcases List.mem_cons.mp hl with hm | hrest
          · rw [← hm]
            exact List.mem_append_left _ hc
          · exact List.mem_append_right _ (List.mem_cons_of_mem _ (ih hrest))

theorem mem_unlines {ls : List Text} {c : Char} (h : c ∈ unlines ls) :
    c = '\n' ∨ ∃ l ∈ ls, c ∈ l := by
  induction ls with
  | nil =>
      cases h
  | cons m rest ih =>
      cases rest with
      | nil =>
          rw [unlines_singleton] at h
          exact Or.inr ⟨m, by simp, h⟩
      | cons n later =>
          rw [unlines_cons (by simp)] at h
          rcases List.mem_append.mp h with hm | hrest
          · exact Or.inr ⟨m, by simp, hm⟩
          · rcases List.mem_cons.mp hrest with hfeed | hlater
            · exact Or.inl hfeed
            · rcases ih hlater with hfeed | ⟨l, hl, hc⟩
              · exact Or.inl hfeed
              · exact Or.inr ⟨l, List.mem_cons_of_mem m hl, hc⟩

/-- A line that two texts share ends the first and begins the second. -/
theorem unlines_append_glued (before after : List Text) (last first : Text) :
    unlines (before ++ (last ++ first) :: after) =
      unlines (before ++ [last]) ++ unlines (first :: after) := by
  induction before with
  | nil =>
      cases after with
      | nil =>
          simp
      | cons l rest =>
          simp [unlines_cons]
  | cons l rest ih =>
      rw [List.cons_append, List.cons_append, unlines_cons (by simp), unlines_cons (by simp), ih]
      simp

theorem unlines_append_cons (start rest : Text) (later : List Text) :
    unlines ((start ++ rest) :: later) = start ++ unlines (rest :: later) := by
  simpa using unlines_append_glued [] later start rest

/-!
# The lines of a text
-/

theorem lines_ne_nil (t : Text) : lines t ≠ [] :=
  List.splitOn_ne_nil '\n' t

@[simp] theorem lines_nil : lines [] = [[]] := rfl

theorem lines_cons_lineFeed (t : Text) : lines ('\n' :: t) = [] :: lines t := by
  simp [lines, List.splitOn_cons_eq_if_modifyHead]

theorem lines_cons {c : Char} (h : c ≠ '\n') (t : Text) :
    lines (c :: t) = (lines t).modifyHead (c :: ·) := by
  simp [lines, List.splitOn_cons_eq_if_modifyHead, h]

theorem lines_eq_singleton {t : Text} (h : '\n' ∉ t) : lines t = [t] :=
  List.splitOn_eq_singleton h

theorem head?_lines (t : Text) : (lines t).head? = some (t.takeWhile (· != '\n')) := by
  induction t with
  | nil =>
      rfl
  | cons c rest ih =>
      by_cases hc : c = '\n'
      · rw [hc, lines_cons_lineFeed]
        rfl
      · have hkept : (c != '\n') = true := bne_iff_ne.mpr hc
        rw [lines_cons hc, List.head?_modifyHead, ih, List.takeWhile_cons, if_pos hkept]
        rfl

theorem unlines_lines (t : Text) : unlines (lines t) = t :=
  List.intercalate_splitOn '\n'

theorem lines_unlines {ls : List Text} (h : ∀ l ∈ ls, '\n' ∉ l) (hne : ls ≠ []) :
    lines (unlines ls) = ls :=
  List.splitOn_intercalate '\n' h hne

theorem lines_append_lineFeed (a b : Text) : lines (a ++ '\n' :: b) = lines a ++ lines b :=
  List.splitOn_append_cons_self a b

/-- The last line of a text and the first line of the text behind it become one. -/
theorem lines_append {a b last first : Text} {before after : List Text}
    (ha : lines a = before ++ [last]) (hb : lines b = first :: after) :
    lines (a ++ b) = before ++ (last ++ first) :: after := by
  induction a generalizing before last with
  | nil =>
      rw [lines_nil] at ha
      cases before with
      | nil =>
          have hlast : [] = last := by simpa using ha
          rw [← hlast]
          exact hb
      | cons l rest =>
          simp at ha
  | cons c rest ih =>
      by_cases hc : c = '\n'
      · subst hc
        rw [lines_cons_lineFeed] at ha
        cases before with
        | nil =>
            injection ha with _ hrest
            exact absurd hrest (lines_ne_nil rest)
        | cons l before' =>
            injection ha with hl hrest
            rw [List.cons_append, lines_cons_lineFeed, ih hrest, ← hl, List.cons_append]
      · rw [lines_cons hc] at ha
        rw [List.cons_append, lines_cons hc]
        cases hrest : lines rest with
        | nil =>
            exact absurd hrest (lines_ne_nil rest)
        | cons l later =>
            rw [hrest, List.modifyHead_cons] at ha
            cases before with
            | nil =>
                injection ha with hlast hlater
                have hsingle : lines rest = [] ++ [l] := by
                  rw [hrest, hlater, List.nil_append]
                rw [ih hsingle, ← hlast]
                rfl
            | cons m before' =>
                injection ha with hm hlater
                rw [show later = before' ++ [last] from hlater, ← List.cons_append] at hrest
                rw [ih hrest, ← hm]
                rfl

theorem lineFeed_not_mem_of_mem_lines {t l : Text} (h : l ∈ lines t) : '\n' ∉ l := by
  induction t generalizing l with
  | nil =>
      simp at h
      simp [h]
  | cons c rest ih =>
      by_cases hc : c = '\n'
      · subst hc
        rw [lines_cons_lineFeed] at h
        rcases List.mem_cons.mp h with hl | hl
        · simp [hl]
        · exact ih hl
      · rw [lines_cons hc] at h
        cases hrest : lines rest with
        | nil =>
            exact absurd hrest (lines_ne_nil rest)
        | cons m later =>
            rw [hrest, List.modifyHead_cons] at h
            rcases List.mem_cons.mp h with hl | hl
            · subst hl
              have hm : '\n' ∉ m := ih (by simp [hrest])
              simp [hm, Ne.symm hc]
            · exact ih (by simp [hrest, hl])

theorem mem_of_mem_lines {t l : Text} {c : Char} (hl : l ∈ lines t) (hc : c ∈ l) : c ∈ t := by
  rw [← unlines_lines t]
  exact mem_unlines_of_mem hl hc

theorem allBlank_unlines (ls : List Text) : allBlank (unlines ls) = ls.all allBlank := by
  induction ls with
  | nil =>
      rfl
  | cons l rest ih =>
      cases rest with
      | nil =>
          rw [unlines_singleton, List.all_cons, List.all_nil, Bool.and_true]
      | cons m later =>
          have hfeed : isBlank '\n' = true := by
            decide
          rw [unlines_cons (by simp), allBlank, List.all_append, List.all_cons, hfeed,
            Bool.true_and, List.all_cons, ← ih]
          rfl

/-- Every text has a last line, which may be its first. -/
theorem exists_lines_eq_concat (t : Text) : ∃ before last, lines t = before ++ [last] :=
  ⟨(lines t).dropLast, (lines t).getLast (lines_ne_nil t),
    (List.dropLast_concat_getLast (lines_ne_nil t)).symm⟩

/-- Every text has a first line. -/
theorem exists_lines_eq_cons (t : Text) : ∃ first later, lines t = first :: later :=
  List.exists_cons_of_ne_nil (lines_ne_nil t)

/-!
# Words side by side
-/

@[simp] theorem unwords_singleton (w : Text) : unwords [w] = w := by
  simp [unwords]

end Text
end EndpointDocs
