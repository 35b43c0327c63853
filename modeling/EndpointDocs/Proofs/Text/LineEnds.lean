import EndpointDocs.Proofs.Text.Ends
import EndpointDocs.Proofs.Text.Lines

/-!
# Carriage returns at line ends

Some systems end a line with a carriage return and a line feed.  A carriage return is blank, so a
text that gets one before every line feed keeps its lines but for the blanks at their ends, and what
a text begins with does not change as long as it has neither of the two characters.
-/

namespace EndpointDocs
namespace Text

/-- A text with a carriage return before every line feed. -/
def withReturns (t : Text) : Text :=
  t.flatMap fun c => if c = '\n' then ['\r', '\n'] else [c]

@[simp] theorem withReturns_nil : withReturns [] = [] := rfl

theorem withReturns_cons_lineFeed (t : Text) :
    withReturns ('\n' :: t) = '\r' :: '\n' :: withReturns t := rfl

theorem withReturns_cons {c : Char} (h : c ≠ '\n') (t : Text) :
    withReturns (c :: t) = c :: withReturns t := by
  rw [withReturns, List.flatMap_cons, if_neg h, List.singleton_append, withReturns]

theorem withReturns_append (a b : Text) :
    withReturns (a ++ b) = withReturns a ++ withReturns b := by
  rw [withReturns, List.flatMap_append, withReturns, withReturns]

theorem withReturns_eq_self {t : Text} (h : '\n' ∉ t) : withReturns t = t := by
  induction t with
  | nil =>
      rfl
  | cons c rest ih =>
      have hc : c ≠ '\n' := fun heq => h (by simp [heq])
      rw [withReturns_cons hc, ih fun hmem => h (by simp [hmem])]

/-!
# What a text begins with
-/

theorem head?_withReturns_eq_some_iff {c : Char} (hfeed : c ≠ '\n') (hreturn : c ≠ '\r')
    (t : Text) : (withReturns t).head? = some c ↔ t.head? = some c := by
  cases t with
  | nil =>
      rfl
  | cons d rest =>
      by_cases hd : d = '\n'
      · simp [hd, withReturns_cons_lineFeed, Ne.symm hfeed, Ne.symm hreturn]
      · rw [withReturns_cons hd, List.head?_cons, List.head?_cons]

theorem dropWhile_withReturns {p : Char → Bool} (h : p '\r' = p '\n') (t : Text) :
    (withReturns t).dropWhile p = withReturns (t.dropWhile p) := by
  induction t with
  | nil =>
      rfl
  | cons c rest ih =>
      by_cases hc : c = '\n'
      · subst hc
        rw [withReturns_cons_lineFeed]
        cases hp : p '\n' with
        | true =>
            rw [List.dropWhile_cons_of_pos (h.trans hp), List.dropWhile_cons_of_pos hp,
              List.dropWhile_cons_of_pos hp, ih]
        | false =>
            rw [List.dropWhile_cons_of_neg (by simp [h, hp]),
              List.dropWhile_cons_of_neg (by simp [hp]), withReturns_cons_lineFeed]
      · rw [withReturns_cons hc]
        cases hp : p c with
        | true =>
            rw [List.dropWhile_cons_of_pos hp, List.dropWhile_cons_of_pos hp, ih]
        | false =>
            rw [List.dropWhile_cons_of_neg (by simp [hp]),
              List.dropWhile_cons_of_neg (by simp [hp]), withReturns_cons hc]

theorem after?_withReturns {start : Text} (hfeed : '\n' ∉ start) (hreturn : '\r' ∉ start)
    (t : Text) : after? start (withReturns t) = (after? start t).map withReturns := by
  induction start generalizing t with
  | nil =>
      rfl
  | cons a more ih =>
      have hmore : '\n' ∉ more ∧ '\r' ∉ more :=
        ⟨fun hmem => hfeed (by simp [hmem]), fun hmem => hreturn (by simp [hmem])⟩
      cases t with
      | nil =>
          rfl
      | cons c rest =>
          by_cases hc : c = '\n'
          · have hafeed : a ≠ '\n' := fun heq => hfeed (by simp [heq])
            have hareturn : a ≠ '\r' := fun heq => hreturn (by simp [heq])
            simp [hc, withReturns_cons_lineFeed, after?, List.isPrefixOf?, hafeed, hareturn]
          · rw [withReturns_cons hc]
            by_cases hac : a = c
            · have hrest := ih hmore.left hmore.right rest
              simpa [after?, List.isPrefixOf?, hac] using hrest
            · simp [after?, List.isPrefixOf?, hac]

/-!
# What a text is made of
-/

theorem mem_withReturns_iff {c : Char} (h : c ≠ '\r') {t : Text} :
    c ∈ withReturns t ↔ c ∈ t := by
  induction t with
  | nil =>
      rfl
  | cons d rest ih =>
      by_cases hd : d = '\n'
      · simp [hd, withReturns_cons_lineFeed, h, ih]
      · rw [withReturns_cons hd, List.mem_cons, List.mem_cons, ih]

theorem allBlank_withReturns (t : Text) : allBlank (withReturns t) = allBlank t := by
  induction t with
  | nil =>
      rfl
  | cons c rest ih =>
      have hcons : ∀ d u, allBlank (d :: u) = (isBlank d && allBlank u) := fun _ _ => rfl
      by_cases hc : c = '\n'
      · have hreturn : isBlank '\r' = true := by
          decide
        rw [hc, withReturns_cons_lineFeed, hcons, hcons, hcons, hreturn, Bool.true_and, ih]
      · rw [withReturns_cons hc, hcons, hcons, ih]

theorem count_withReturns (t : Text) : (withReturns t).count '\n' = t.count '\n' := by
  induction t with
  | nil =>
      rfl
  | cons c rest ih =>
      by_cases hc : c = '\n'
      · rw [hc, withReturns_cons_lineFeed, List.count_cons_of_ne (by decide), List.count_cons_self,
          List.count_cons_self, ih]
      · rw [withReturns_cons hc, List.count_cons_of_ne hc, List.count_cons_of_ne hc, ih]

/-!
# Lines without the blanks at their ends
-/

theorem trimEnd_cons_congr {a b : Text} (h : trimEnd a = trimEnd b) (c : Char) :
    trimEnd (c :: a) = trimEnd (c :: b) := by
  rw [trimEnd, trimEnd] at h
  rw [trimEnd, trimEnd, dropEndWhile_cons, dropEndWhile_cons, h]

theorem map_trimEnd_lines_append_return (t : Text) :
    (lines (t ++ ['\r'])).map trimEnd = (lines t).map trimEnd := by
  rcases exists_lines_eq_concat t with ⟨before, last, hlines⟩
  have hreturn : lines ['\r'] = [['\r']] := by
    decide
  have hlast : trimEnd (last ++ ['\r']) = trimEnd last :=
    dropEndWhile_append_of_all last (List.all_eq_true.mp (by decide))
  rw [lines_append hlines hreturn, hlines, List.map_append, List.map_append, List.map_singleton,
    List.map_singleton, hlast]

theorem map_trimEnd_lines_withReturns (t : Text) :
    (lines (withReturns t)).map trimEnd = (lines t).map trimEnd := by
  induction t with
  | nil =>
      rfl
  | cons c rest ih =>
      by_cases hc : c = '\n'
      · have hblank : trimEnd ['\r'] = trimEnd [] := by
          decide
        rw [hc, withReturns_cons_lineFeed, lines_cons (by decide), lines_cons_lineFeed,
          lines_cons_lineFeed, List.modifyHead_cons, List.map_cons, List.map_cons, ih, hblank]
      · rcases exists_lines_eq_cons (withReturns rest) with ⟨first, later, hlines⟩
        rcases exists_lines_eq_cons rest with ⟨first', later', hlines'⟩
        rw [hlines, hlines', List.map_cons, List.map_cons] at ih
        injection ih with hfirst hlater
        rw [withReturns_cons hc, lines_cons hc, lines_cons hc, hlines, hlines',
          List.modifyHead_cons, List.modifyHead_cons, List.map_cons, List.map_cons,
          trimEnd_cons_congr hfirst, hlater]

end Text
end EndpointDocs
