import EndpointDocs.Proofs.Comment.Content
import EndpointDocs.Proofs.Comment.NormalLines
import Mathlib.Data.List.Chain

/-!
# Plain text as a normal form

Plain text keeps every filled line of its comments in order, and of the blank lines between two
filled ones it keeps one if there is any.  No blank line stands at either end.  Lines of this form
are not changed when they are made into comments again, so plain text is stable.
-/

namespace EndpointDocs
namespace Comment

/-- Whether a line has a character that is not blank. -/
def isFilled (l : Text) : Bool :=
  !Text.allBlank l

/-- A run of blank lines, or none, between two filled lines of a list of which `n` filled lines come
before the first. -/
def IsGap (ls : List Text) (n : Nat) (gap : List Text) : Prop :=
  ∃ front first second back, ls = front ++ first :: (gap ++ second :: back) ∧
    isFilled first = true ∧ isFilled second = true ∧ (∀ l ∈ gap, isFilled l = false) ∧
    front.countP isFilled = n

/-- What is left of lines when blank runs are made single and those at the ends are dropped. -/
structure IsCondensed (said kept : List Text) : Prop where
  filled_eq : kept.filter isFilled = said.filter isFilled
  head_filled : ∀ l ∈ kept.head?, isFilled l = true
  last_filled : ∀ l ∈ kept.getLast?, isFilled l = true
  no_two_blank : kept.IsChain fun first second => isFilled first = true ∨ isFilled second = true
  gap_exists : ∀ n gap, IsGap said n gap → ∃ gap', IsGap kept n gap'
  gap_iff : ∀ n gap gap', IsGap said n gap → IsGap kept n gap' → (gap' ≠ [] ↔ gap ≠ [])

theorem isFilled_nil : isFilled [] = false := by
  rfl

theorem isFilled_iff_of_trimEnd {l : Text} (h : Text.trimEnd l = l) :
    isFilled l = true ↔ l ≠ [] := by
  rw [isFilled, Bool.not_eq_true', ← Bool.not_eq_true, ← Text.trimEnd_eq_nil_iff, h]

/-!
# Filled lines
-/

theorem filter_isFilled_squeeze (gap : Bool) (ls : List Text) :
    (squeeze gap ls).filter isFilled = ls.filter isFilled := by
  induction ls generalizing gap with
  | nil =>
      rfl
  | cons line rest ih =>
      by_cases hdrop : (line.isEmpty && gap) = true
      · have hline : line = [] := List.isEmpty_iff.mp (Bool.and_eq_true_iff.mp hdrop).left
        rw [squeeze, if_pos hdrop, ih, hline, List.filter_cons_of_neg (by simp [isFilled_nil])]
      · rw [squeeze, if_neg hdrop, List.filter_cons, List.filter_cons, ih]

theorem exists_squeeze_eq_append (ls : List Text) :
    ∃ back, squeeze true ls = normalLines ls ++ back ∧ ∀ l ∈ back, l = [] := by
  rcases Text.exists_eq_dropEndWhile_append List.isEmpty (squeeze true ls) with
    ⟨back, hsplit, hback⟩
  rw [← normalLines_eq_dropEndWhile] at hsplit
  exact ⟨back, hsplit, fun l hl => List.isEmpty_iff.mp (hback l hl)⟩

theorem filter_isFilled_normalLines (ls : List Text) :
    (normalLines ls).filter isFilled = ls.filter isFilled := by
  rcases exists_squeeze_eq_append ls with ⟨back, hsplit, hback⟩
  have hnone : back.filter isFilled = [] := by
    rw [List.filter_eq_nil_iff]
    intro l hl
    rw [hback l hl, isFilled_nil]
    exact Bool.false_ne_true
  have hall := congrArg (List.filter isFilled) hsplit
  rw [List.filter_append, hnone, List.append_nil, filter_isFilled_squeeze] at hall
  exact hall.symm

/-!
# Places of filled lines

A filled line is told by the number of filled lines before it, so the lines between it and the next
one are too.
-/

theorem append_cons_inj_of_countP {p : Text → Bool} {front front' back back' : List Text}
    {l l' : Text} (hl : p l = true) (hl' : p l' = true)
    (hcount : front.countP p = front'.countP p)
    (h : front ++ l :: back = front' ++ l' :: back') : front = front' ∧ l = l' ∧ back = back' := by
  induction front generalizing front' with
  | nil =>
      cases front' with
      | nil =>
          injection h with hhead htail
          exact ⟨rfl, hhead, htail⟩
      | cons m rest =>
          injection h with hhead _
          rw [List.countP_nil, List.countP_cons, ← hhead, if_pos hl] at hcount
          omega
  | cons m rest ih =>
      cases front' with
      | nil =>
          injection h with hhead _
          rw [List.countP_nil, List.countP_cons, hhead, if_pos hl'] at hcount
          omega
      | cons m' rest' =>
          injection h with hhead htail
          subst hhead
          rw [List.countP_cons, List.countP_cons, Nat.add_right_cancel_iff] at hcount
          rcases ih hcount htail with ⟨hrest, hline, hback⟩
          exact ⟨by rw [hrest], hline, hback⟩

theorem countP_isFilled_eq_zero {gap : List Text} (h : ∀ l ∈ gap, isFilled l = false) :
    gap.countP isFilled = 0 := by
  rw [List.countP_eq_zero]
  intro l hl
  rw [h l hl]
  exact Bool.false_ne_true

theorem IsGap.unique {ls : List Text} {n : Nat} {gap gap' : List Text} (h : IsGap ls n gap)
    (h' : IsGap ls n gap') : gap = gap' := by
  rcases h with ⟨front, first, second, back, hls, hfirst, hsecond, hgap, hn⟩
  rcases h' with ⟨front', first', second', back', hls', hfirst', hsecond', hgap', hn'⟩
  have houter := append_cons_inj_of_countP hfirst hfirst' (hn.trans hn'.symm) (hls.symm.trans hls')
  have hcount : gap.countP isFilled = gap'.countP isFilled := by
    rw [countP_isFilled_eq_zero hgap, countP_isFilled_eq_zero hgap']
  exact (append_cons_inj_of_countP hsecond hsecond' hcount houter.right.right).left

theorem squeeze_false_eq_nil_iff {gap : List Text} : squeeze false gap = [] ↔ gap = [] := by
  cases gap with
  | nil =>
      exact iff_of_true rfl rfl
  | cons l rest =>
      rw [squeeze, Bool.and_false, if_neg Bool.false_ne_true]
      simp

theorem isGap_normalLines {ls : List Text} (hls : ∀ l ∈ ls, Text.trimEnd l = l) {n : Nat}
    {gap : List Text} (h : IsGap ls n gap) : IsGap (normalLines ls) n (squeeze false gap) := by
  rcases h with ⟨front, first, second, back, rfl, hfirst, hsecond, hgap, hn⟩
  have hne : first ≠ [] := (isFilled_iff_of_trimEnd (hls first (by simp))).mp hfirst
  have hne' : second ≠ [] := (isFilled_iff_of_trimEnd (hls second (by simp))).mp hsecond
  have hempty : List.isEmpty second = false := by
    simpa using hne'
  refine ⟨squeeze true front, first, second,
    Text.dropEndWhile List.isEmpty (squeeze false back), ?_, hfirst, hsecond, ?_, ?_⟩
  · rw [normalLines_append_cons hne, squeeze_append_cons hne',
      Text.dropEndWhile_append_cons hempty]
  · intro l hl
    exact hgap l (mem_of_mem_squeeze hl)
  · rw [List.countP_eq_length_filter, filter_isFilled_squeeze, ← List.countP_eq_length_filter, hn]

/-!
# The normal form
-/

theorem mem_of_mem_normalLines {ls : List Text} {l : Text} (h : l ∈ normalLines ls) : l ∈ ls := by
  rw [normalLines_eq_dropEndWhile] at h
  exact mem_of_mem_squeeze (Text.mem_of_mem_dropEndWhile h)

theorem isChain_nil_cons_normalLines (ls : List Text) :
    ([] :: normalLines ls).IsChain NotBothEmpty := by
  rcases exists_squeeze_eq_append ls with ⟨back, hsplit, -⟩
  have hchain := isChain_nil_cons_squeeze ls
  rw [hsplit, ← List.cons_append] at hchain
  exact hchain.left_of_append

theorem ne_nil_of_mem_head?_normalLines {ls : List Text} :
    ∀ l ∈ (normalLines ls).head?, l ≠ [] := by
  intro l hl
  rcases (isChain_nil_cons_normalLines ls).rel_head? hl with hnil | hl
  · exact absurd rfl hnil
  · exact hl

theorem ne_nil_of_mem_getLast?_normalLines {ls : List Text} :
    ∀ l ∈ (normalLines ls).getLast?, l ≠ [] := by
  intro l hl hnil
  rw [normalLines_eq_dropEndWhile] at hl
  have hlast := Text.not_of_mem_getLast?_dropEndWhile l hl
  rw [hnil] at hlast
  cases hlast

theorem normalLines_normalLines (ls : List Text) :
    normalLines (normalLines ls) = normalLines ls := by
  have hself := squeeze_eq_self (isChain_nil_cons_normalLines ls)
  rw [normalLines_eq_dropEndWhile (normalLines ls), hself]
  apply Text.dropEndWhile_eq_self
  intro l hl
  simpa using ne_nil_of_mem_getLast?_normalLines l hl

theorem IsCondensed.eq_nil_iff {said kept : List Text} (h : IsCondensed said kept) :
    kept = [] ↔ ∀ l ∈ said, isFilled l = false := by
  have hnone : kept = [] ↔ kept.filter isFilled = [] := by
    constructor
    · intro hkept
      rw [hkept, List.filter_nil]
    · intro hfilter
      cases hkept : kept with
      | nil =>
          rfl
      | cons l rest =>
          have hl : isFilled l = true := h.head_filled l (by simp [hkept])
          rw [hkept, List.filter_cons_of_pos hl] at hfilter
          cases hfilter
  rw [hnone, h.filled_eq, List.filter_eq_nil_iff]
  simp only [Bool.not_eq_true]

theorem isCondensed_normalLines {ls : List Text} (hls : ∀ l ∈ ls, Text.trimEnd l = l) :
    IsCondensed ls (normalLines ls) := by
  have hfilled : ∀ l ∈ normalLines ls, isFilled l = true ↔ l ≠ [] :=
    fun l hl => isFilled_iff_of_trimEnd (hls l (mem_of_mem_normalLines hl))
  constructor
  · exact filter_isFilled_normalLines ls
  · intro l hl
    exact (hfilled l (List.mem_of_mem_head? hl)).mpr (ne_nil_of_mem_head?_normalLines l hl)
  · intro l hl
    exact (hfilled l (List.mem_of_mem_getLast? hl)).mpr (ne_nil_of_mem_getLast?_normalLines l hl)
  · refine (isChain_nil_cons_normalLines ls).tail.imp_of_mem_imp ?_
    intro first second hfirst hsecond hone
    rw [hfilled first hfirst, hfilled second hsecond]
    exact hone
  · intro n gap hgap
    exact ⟨squeeze false gap, isGap_normalLines hls hgap⟩
  · intro n gap gap' hgap hgap'
    rw [hgap'.unique (isGap_normalLines hls hgap), ne_eq, ne_eq, squeeze_false_eq_nil_iff]

/-!
# Plain text
-/

theorem mem_contentLines_of_mem_kept {raws : List Text} {l : Text}
    (h : l ∈ normalLines (raws.flatMap contentLines)) : ∃ raw ∈ raws, l ∈ contentLines raw :=
  List.mem_flatMap.mp (mem_of_mem_normalLines h)

theorem lineFeed_not_mem_of_mem_normalLines {raws : List Text} {l : Text}
    (h : l ∈ normalLines (raws.flatMap contentLines)) : '\n' ∉ l := by
  rcases mem_contentLines_of_mem_kept h with ⟨raw, -, hmem⟩
  exact lineFeed_not_mem_of_mem_contentLines hmem

theorem lines_plainText (raws : List Text) :
    Text.lines (plainText raws) = normalLines (raws.flatMap contentLines) ++ [[]] := by
  cases hkept : normalLines (raws.flatMap contentLines) with
  | nil =>
      rw [plainText, hkept]
      rfl
  | cons line later =>
      have hlines : ∀ l ∈ line :: later, '\n' ∉ l := by
        intro l hl
        rw [← hkept] at hl
        exact lineFeed_not_mem_of_mem_normalLines hl
      rw [plainText_of_normalLines (List.cons_ne_nil line later) hkept, Text.lines_append_lineFeed,
        Text.lines_unlines hlines (List.cons_ne_nil line later), Text.lines_nil]

theorem plainText_eq_unlines (raws : List Text) :
    plainText raws = Text.unlines (normalLines (raws.flatMap contentLines) ++ [[]]) := by
  rw [← lines_plainText, Text.unlines_lines]

/-- Comments with the same lines but for empty ones at the ends have the same plain text. -/
theorem plainText_eq_of_kept {raws others : List Text} (front back : List Text)
    (hfront : ∀ l ∈ front, l = []) (hback : ∀ l ∈ back, l = [])
    (h : others.flatMap contentLines =
      front ++ (normalLines (raws.flatMap contentLines) ++ back)) :
    plainText others = plainText raws := by
  rw [plainText, h, normalLines_append_ends _ hfront hback, normalLines_normalLines, plainText]

theorem map_trimEnd_kept (raws : List Text) :
    (normalLines (raws.flatMap contentLines)).map Text.trimEnd =
      normalLines (raws.flatMap contentLines) := by
  have hline : ∀ l ∈ normalLines (raws.flatMap contentLines), Text.trimEnd l = id l := by
    intro l hl
    rcases mem_contentLines_of_mem_kept hl with ⟨raw, -, hmem⟩
    exact trimEnd_of_mem_contentLines hmem
  rw [List.map_congr_left hline, List.map_id]

theorem plainText_map_ofLine (raws : List Text) :
    plainText ((normalLines (raws.flatMap contentLines)).map ofLine) = plainText raws := by
  have hlines : ∀ l ∈ normalLines (raws.flatMap contentLines), '\n' ∉ l :=
    fun l hl => lineFeed_not_mem_of_mem_normalLines hl
  apply plainText_eq_of_kept [] [] (by simp) (by simp)
  rw [flatMap_contentLines_ofLine hlines, map_trimEnd_kept, List.append_nil, List.nil_append]

theorem plainText_map_ofLine_lines (raws : List Text) :
    plainText ((Text.lines (plainText raws)).map ofLine) = plainText raws := by
  have hlines : ∀ l ∈ Text.lines (plainText raws), '\n' ∉ l :=
    fun l hl => Text.lineFeed_not_mem_of_mem_lines hl
  apply plainText_eq_of_kept [] [[]] (by simp) (by simp)
  rw [flatMap_contentLines_ofLine hlines, lines_plainText, List.map_append, map_trimEnd_kept]
  rfl

theorem plainText_ofBlock (raws : List Text) :
    plainText [ofBlock (plainText raws)] = plainText raws := by
  apply plainText_eq_of_kept [[]] [[]] (by simp) (by simp)
  rw [List.flatMap_singleton, contentLines_ofBlock, lines_plainText, List.map_append,
    map_trimEnd_kept]
  rfl

theorem plainText_condenses (raws : List Text) :
    (∀ raw ∈ raws, ∃ said, Says raw said ∧
      contentLines raw = (said.toList.flatMap Text.lines).map Text.trimEnd) ∧
    ((∀ l ∈ raws.flatMap contentLines, isFilled l = false) → plainText raws = []) ∧
    ((∃ l ∈ raws.flatMap contentLines, isFilled l = true) →
      (plainText raws).getLast? = some '\n' ∧
      ∃ kept, Text.lines (plainText raws) = kept ++ [[]] ∧
        IsCondensed (raws.flatMap contentLines) kept ∧
        plainText (kept.map ofLine) = plainText raws) ∧
    plainText ((Text.lines (plainText raws)).map ofLine) = plainText raws ∧
    plainText [ofBlock (plainText raws)] = plainText raws := by
  have htrimmed : ∀ l ∈ raws.flatMap contentLines, Text.trimEnd l = l := by
    intro l hl
    rcases List.mem_flatMap.mp hl with ⟨raw, -, hmem⟩
    exact trimEnd_of_mem_contentLines hmem
  have hcondensed := isCondensed_normalLines htrimmed
  refine ⟨fun raw _ => ⟨inner? raw, says_inner? raw, contentLines_eq raw⟩, ?_, ?_,
    plainText_map_ofLine_lines raws, plainText_ofBlock raws⟩
  · intro hblank
    rw [plainText, hcondensed.eq_nil_iff.mpr hblank]
  · rintro ⟨l, hl, hfilled⟩
    have hne : normalLines (raws.flatMap contentLines) ≠ [] := by
      intro hnil
      rw [hcondensed.eq_nil_iff.mp hnil l hl] at hfilled
      cases hfilled
    refine ⟨?_, _, lines_plainText raws, hcondensed, plainText_map_ofLine raws⟩
    rw [plainText_of_normalLines hne rfl, List.getLast?_concat]

end Comment
end EndpointDocs
