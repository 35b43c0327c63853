import EndpointDocs.Text.Blank
import Mathlib.Data.List.Basic
import Mathlib.Data.List.TakeWhile

/-!
# Ends of texts

What a text begins with and what is left of it without the blanks at its ends.  What `dropEndWhile`
leaves of a list is told by its last member that fails the test: everything up to that member stays,
everything behind it goes.  Trimming texts and lists of lines is then a matter of the characters and
lines at both ends.
-/

namespace EndpointDocs
namespace Text

theorem after?_eq_some_iff {start t rest : Text} :
    after? start t = some rest ↔ t = start ++ rest := by
  rw [after?, List.isPrefixOf?_eq_some_iff_append_eq]
  exact eq_comm

@[simp] theorem after?_append (start rest : Text) : after? start (start ++ rest) = some rest :=
  after?_eq_some_iff.mpr rfl

/-- A character that `start` does not hold ends what a text can begin with. -/
theorem after?_append_cons {start : Text} {c : Char} (h : c ∉ start) (t back : Text) :
    after? start (t ++ c :: back) = (after? start t).map (· ++ c :: back) := by
  induction start generalizing t with
  | nil =>
      rfl
  | cons a more ih =>
      have hmore : c ∉ more := fun hmem => h (List.mem_cons_of_mem a hmem)
      cases t with
      | nil =>
          have hac : a ≠ c := fun heq => h (by simp [heq])
          simp [after?, List.isPrefixOf?, hac]
      | cons d rest =>
          by_cases had : a = d
          · have hrest := ih hmore rest
            simpa [after?, List.isPrefixOf?, had] using hrest
          · simp [after?, List.isPrefixOf?, had]

/-!
# Dropping the end of a list
-/

theorem dropEndWhile_eq_nil_iff {α : Type} {p : α → Bool} {l : List α} :
    dropEndWhile p l = [] ↔ ∀ a ∈ l, p a = true := by
  induction l with
  | nil =>
      simp
  | cons a rest ih =>
      rw [dropEndWhile_cons]
      by_cases hrest : dropEndWhile p rest = []
      · have hall := ih.mp hrest
        by_cases ha : p a = true
        · simp [hrest, ha]
          exact hall
        · simp [hrest, ha]
      · have hsome : ¬ ∀ b ∈ rest, p b = true := fun h => hrest (ih.mpr h)
        simp only [hrest, if_false, List.mem_cons, forall_eq_or_imp]
        constructor
        · intro h
          cases h
        · intro h
          exact absurd h.right hsome

theorem dropEndWhile_append_of_all {α : Type} {p : α → Bool} (front : List α) {back : List α}
    (h : ∀ a ∈ back, p a = true) :
    dropEndWhile p (front ++ back) = dropEndWhile p front := by
  induction front with
  | nil =>
      rw [List.nil_append, dropEndWhile_nil]
      exact dropEndWhile_eq_nil_iff.mpr h
  | cons a rest ih =>
      rw [List.cons_append, dropEndWhile_cons, dropEndWhile_cons, ih]

theorem dropEndWhile_append_cons {α : Type} {p : α → Bool} {a : α} (h : p a = false)
    (front back : List α) :
    dropEndWhile p (front ++ a :: back) = front ++ a :: dropEndWhile p back := by
  induction front with
  | nil =>
      rw [List.nil_append, List.nil_append, dropEndWhile_cons]
      by_cases hback : dropEndWhile p back = []
      · simp [hback, h]
      · simp [hback]
  | cons b rest ih =>
      rw [List.cons_append, List.cons_append, dropEndWhile_cons, ih, if_neg (by simp)]

theorem dropEndWhile_eq_self {α : Type} {p : α → Bool} {l : List α}
    (h : ∀ a ∈ l.getLast?, p a = false) : dropEndWhile p l = l := by
  cases hlast : l.getLast? with
  | none =>
      rw [List.getLast?_eq_none_iff.mp hlast, dropEndWhile_nil]
  | some a =>
      rcases List.getLast?_eq_some_iff.mp hlast with ⟨front, rfl⟩
      have ha : p a = false := h a (by simp)
      rw [dropEndWhile_append_cons ha, dropEndWhile_nil]

theorem not_of_mem_getLast?_dropEndWhile {α : Type} {p : α → Bool} {l : List α} :
    ∀ a ∈ (dropEndWhile p l).getLast?, p a = false := by
  induction l with
  | nil =>
      simp
  | cons a rest ih =>
      rw [dropEndWhile_cons]
      by_cases hrest : dropEndWhile p rest = []
      · by_cases ha : p a = true
        · simp [hrest, ha]
        · simp [hrest, ha]
      · rw [if_neg hrest, List.getLast?_cons_of_ne_nil hrest]
        exact ih

theorem exists_eq_dropEndWhile_append {α : Type} (p : α → Bool) (l : List α) :
    ∃ back, l = dropEndWhile p l ++ back ∧ ∀ a ∈ back, p a = true := by
  induction l with
  | nil =>
      exact ⟨[], rfl, by simp⟩
  | cons a rest ih =>
      rcases ih with ⟨back, hrest, hback⟩
      rw [dropEndWhile_cons]
      by_cases hnil : dropEndWhile p rest = []
      · rw [hnil, List.nil_append] at hrest
        rw [if_pos hnil]
        by_cases ha : p a = true
        · refine ⟨a :: rest, by rw [if_pos ha, List.nil_append], ?_⟩
          rw [hrest]
          simpa [ha] using hback
        · refine ⟨rest, by rw [if_neg ha, List.singleton_append], ?_⟩
          rw [hrest]
          exact hback
      · rw [if_neg hnil]
        exact ⟨back, by rw [List.cons_append, ← hrest], hback⟩

theorem exists_dropEndWhile_append {α : Type} (p : α → Bool) (front back : List α) :
    ∃ tail, dropEndWhile p (front ++ back) = dropEndWhile p front ++ tail := by
  by_cases hback : ∀ a ∈ back, p a = true
  · exact ⟨[], by rw [dropEndWhile_append_of_all front hback, List.append_nil]⟩
  · simp only [not_forall, Bool.not_eq_true] at hback
    rcases hback with ⟨a, hmem, ha⟩
    rcases List.append_of_mem hmem with ⟨inner, later, rfl⟩
    rcases exists_eq_dropEndWhile_append p front with ⟨dropped, hfront, -⟩
    refine ⟨dropped ++ (inner ++ a :: dropEndWhile p later), ?_⟩
    rw [← List.append_assoc, dropEndWhile_append_cons ha, ← List.append_assoc, ← hfront,
      List.append_assoc]

theorem mem_of_mem_dropEndWhile {α : Type} {p : α → Bool} {l : List α} {a : α}
    (h : a ∈ dropEndWhile p l) : a ∈ l := by
  induction l with
  | nil =>
      exact h
  | cons b rest ih =>
      rw [dropEndWhile_cons] at h
      by_cases hrest : dropEndWhile p rest = []
      · by_cases hb : p b = true
        · simp [hrest, hb] at h
        · have hab : a = b := by simpa [hrest, hb] using h
          rw [hab]
          exact List.mem_cons_self
      · rw [if_neg hrest] at h
        rcases List.mem_cons.mp h with hab | hmem
        · rw [hab]
          exact List.mem_cons_self
        · exact List.mem_cons_of_mem b (ih hmem)

theorem not_of_mem_head?_dropWhile {α : Type} {p : α → Bool} {l : List α} :
    ∀ a ∈ (l.dropWhile p).head?, p a = false := by
  intro a ha
  have hhead := List.head?_dropWhile_not p l
  rw [Option.mem_def.mp ha] at hhead
  exact hhead

theorem mem_head?_of_mem_head?_dropEndWhile {α : Type} {p : α → Bool} {l : List α} {a : α}
    (h : a ∈ (dropEndWhile p l).head?) : a ∈ l.head? := by
  rcases exists_eq_dropEndWhile_append p l with ⟨back, hl, -⟩
  rw [hl, List.head?_append, Option.mem_def.mp h]
  rfl

theorem length_dropEndWhile_le {α : Type} {p : α → Bool} {l : List α} :
    (dropEndWhile p l).length ≤ l.length := by
  induction l with
  | nil =>
      simp
  | cons a rest ih =>
      rw [dropEndWhile_cons]
      by_cases hrest : dropEndWhile p rest = []
      · by_cases ha : p a = true
        · simp [hrest, ha]
        · simp [hrest, ha]
      · rw [if_neg hrest, List.length_cons, List.length_cons]
        omega

/-!
# Trimming texts
-/

theorem mem_of_mem_trimEnd {t : Text} {c : Char} (h : c ∈ trimEnd t) : c ∈ t :=
  mem_of_mem_dropEndWhile h

theorem mem_trimEnd_iff {c : Char} (h : isBlank c = false) {t : Text} :
    c ∈ trimEnd t ↔ c ∈ t := by
  constructor
  · exact mem_of_mem_trimEnd
  · intro hc
    rcases exists_eq_dropEndWhile_append isBlank t with ⟨back, ht, hback⟩
    rw [ht, List.mem_append] at hc
    rcases hc with hc | hc
    · exact hc
    · rw [hback c hc] at h
      cases h

theorem mem_of_mem_trim {t : Text} {c : Char} (h : c ∈ trim t) : c ∈ t :=
  (List.dropWhile_sublist isBlank).subset (mem_of_mem_trimEnd h)

theorem trimEnd_trimEnd (t : Text) : trimEnd (trimEnd t) = trimEnd t :=
  dropEndWhile_eq_self not_of_mem_getLast?_dropEndWhile

theorem trimEnd_append_cons {c : Char} (h : isBlank c = false) (front back : Text) :
    trimEnd (front ++ c :: back) = front ++ c :: trimEnd back :=
  dropEndWhile_append_cons h front back

theorem trimEnd_eq_self {t : Text} (h : ∀ c ∈ t.getLast?, isBlank c = false) : trimEnd t = t :=
  dropEndWhile_eq_self h

theorem trimEnd_eq_nil_iff {t : Text} : trimEnd t = [] ↔ allBlank t = true := by
  rw [trimEnd, dropEndWhile_eq_nil_iff, allBlank, List.all_eq_true]

theorem allBlank_eq_false_of_mem {t : Text} {c : Char} (hc : c ∈ t) (h : isBlank c = false) :
    allBlank t = false := by
  rw [allBlank, List.all_eq_false]
  exact ⟨c, hc, by rw [h]; exact Bool.false_ne_true⟩

theorem allBlank_trimEnd (t : Text) : allBlank (trimEnd t) = allBlank t := by
  rcases exists_eq_dropEndWhile_append isBlank t with ⟨back, ht, hback⟩
  have hall : allBlank t = (allBlank (trimEnd t) && allBlank back) := by
    rw [allBlank, allBlank, allBlank, ← List.all_append]
    exact congrArg (List.all · isBlank) ht
  have hend : allBlank back = true := List.all_eq_true.mpr hback
  rw [hall, hend, Bool.and_true]

theorem trimStart_eq_self {t : Text} (h : ∀ c ∈ t.head?, isBlank c = false) :
    trimStart t = t := by
  cases t with
  | nil =>
      rfl
  | cons c rest =>
      have hc : isBlank c = false := h c (by simp)
      simp [trimStart, hc]

theorem not_isBlank_of_trimEnd {t : Text} (h : trimEnd t = t) :
    ∀ c ∈ t.getLast?, isBlank c = false := by
  rw [← h]
  exact not_of_mem_getLast?_dropEndWhile

theorem trim_eq_self {t : Text} (hhead : ∀ c ∈ t.head?, isBlank c = false)
    (hlast : ∀ c ∈ t.getLast?, isBlank c = false) : trim t = t := by
  rw [trim, trimStart_eq_self hhead, trimEnd_eq_self hlast]

theorem trim_trim (t : Text) : trim (trim t) = trim t := by
  apply trim_eq_self
  · intro c hc
    exact not_of_mem_head?_dropWhile c (mem_head?_of_mem_head?_dropEndWhile hc)
  · exact not_of_mem_getLast?_dropEndWhile

theorem length_trim_le (t : Text) : (trim t).length ≤ t.length := by
  have hstart : (trimStart t).length ≤ t.length := (List.dropWhile_sublist isBlank).length_le
  have hend : (trim t).length ≤ (trimStart t).length := length_dropEndWhile_le
  omega

theorem trim_cons_of_blank {c : Char} (h : isBlank c = true) (t : Text) :
    trim (c :: t) = trim t := by
  simp [trim, trimStart, h]

theorem trim_eq_self_iff {t : Text} :
    trim t = t ↔ (∀ c ∈ t.head?, isBlank c = false) ∧ ∀ c ∈ t.getLast?, isBlank c = false := by
  constructor
  · intro h
    have hhead : ∀ c ∈ t.head?, isBlank c = false := by
      intro c hc
      cases t with
      | nil =>
          cases hc
      | cons d rest =>
          injection hc with hd
          rw [← hd]
          cases hblank : isBlank d with
          | false =>
              rfl
          | true =>
              rw [trim_cons_of_blank hblank] at h
              have hlength := congrArg List.length h
              have hle : (trim rest).length ≤ rest.length := length_trim_le rest
              rw [List.length_cons] at hlength
              omega
    have hend : trimEnd t = t := by
      rwa [trim, trimStart_eq_self hhead] at h
    exact ⟨hhead, not_isBlank_of_trimEnd hend⟩
  · rintro ⟨hhead, hlast⟩
    exact trim_eq_self hhead hlast

theorem trim_append_of_blank (t : Text) {back : Text} (h : ∀ c ∈ back, isBlank c = true) :
    trim (t ++ back) = trim t := by
  induction t with
  | nil =>
      have hback : back.dropWhile isBlank = [] := List.dropWhile_eq_nil_iff.mpr h
      simp [trim, trimStart, hback]
  | cons c rest ih =>
      cases hc : isBlank c with
      | true =>
          rw [List.cons_append, trim_cons_of_blank hc, trim_cons_of_blank hc, ih]
      | false =>
          have hstart : ∀ more, trimStart (c :: more) = c :: more := by
            intro more
            exact trimStart_eq_self (by simp [hc])
          rw [trim, trim, List.cons_append, hstart, hstart]
          exact dropEndWhile_append_of_all (c :: rest) h

/-- What a text without blanks at its ends ends with has none at its own end. -/
theorem trim_of_suffix {t u : Text} (ht : trim t = t) (hsuffix : u <:+ t)
    (hstart : trimStart u = u) : trim u = u := by
  rcases hsuffix with ⟨front, hfront⟩
  rw [trim, hstart]
  apply trimEnd_eq_self
  intro c hc
  apply (trim_eq_self_iff.mp ht).right
  rw [← hfront, List.getLast?_append, Option.mem_def.mp hc]
  rfl

/-!
# Trimming lists of lines
-/

theorem trimLines_cons_of_blank {l : Text} (h : allBlank l = true) (ls : List Text) :
    trimLines (l :: ls) = trimLines ls := by
  simp [trimLines, h]

theorem trimLines_append_of_blank (ls : List Text) {back : List Text}
    (h : ∀ l ∈ back, allBlank l = true) : trimLines (ls ++ back) = trimLines ls := by
  induction ls with
  | nil =>
      have hback : back.dropWhile allBlank = [] := List.dropWhile_eq_nil_iff.mpr h
      simp [trimLines, hback]
  | cons l rest ih =>
      cases hl : allBlank l with
      | true =>
          rw [List.cons_append, trimLines_cons_of_blank hl, trimLines_cons_of_blank hl, ih]
      | false =>
          simp only [trimLines, List.cons_append, List.dropWhile_cons, hl, Bool.false_eq_true,
            if_false]
          exact dropEndWhile_append_of_all (l :: rest) h

theorem allBlank_head_trimLines (ls : List Text) :
    ∀ l ∈ (trimLines ls).head?, allBlank l = false := by
  intro l hl
  exact not_of_mem_head?_dropWhile l (mem_head?_of_mem_head?_dropEndWhile hl)

theorem allBlank_getLast_trimLines (ls : List Text) :
    ∀ l ∈ (trimLines ls).getLast?, allBlank l = false :=
  not_of_mem_getLast?_dropEndWhile

theorem mem_of_mem_trimLines {ls : List Text} {l : Text} (h : l ∈ trimLines ls) : l ∈ ls :=
  (List.dropWhile_sublist allBlank).subset (mem_of_mem_dropEndWhile h)

theorem trimLines_eq_self {ls : List Text} (hhead : ∀ l ∈ ls.head?, allBlank l = false)
    (hlast : ∀ l ∈ ls.getLast?, allBlank l = false) : trimLines ls = ls := by
  cases ls with
  | nil =>
      rfl
  | cons l rest =>
      have hl : allBlank l = false := hhead l (by simp)
      have hdrop : (l :: rest).dropWhile allBlank = l :: rest := by
        simp [hl]
      rw [trimLines, hdrop]
      exact dropEndWhile_eq_self hlast

end Text
end EndpointDocs
