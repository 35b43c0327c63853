import EndpointDocs.Proofs.Section.Pieces
import EndpointDocs.Proofs.Text.Ends
import Mathlib.Data.List.Enum

/-!
# Sections divide a body

Each line that opens a section begins one, and the section runs up to the next such line or to the
end of the body.  So the sections stand side by side from the first opening line to the last line of
the body, whatever it is that opens a section.

## One division only

The openings and the rule for the ends leave no choice.  A list of sections that keeps to them is
the list of the sections of the body.
-/

namespace EndpointDocs
namespace Section

variable {opening : Text → Option Keyword}

/-- The numbers of the lines that open a section, with what they open.  The first line has the
number `n`. -/
def openingsFrom (opening : Text → Option Keyword) (n : Nat) (body : List Text) :
    List (Nat × Keyword) :=
  (body.zipIdx n).filterMap fun (line, i) => (opening line).map fun k => (i, k)

/-- Whether a section runs from its first line up to the next line that opens one, or to the end of
the body. -/
structure RunsToNext (opening : Text → Option Keyword) (body : List Text) (s : Section) :
    Prop where
  start_lt_stop : s.start < s.stop
  stop_le_length : s.stop ≤ body.length
  inside_none : ∀ i line, s.start < i → i < s.stop → body[i]? = some line → opening line = none
  stop_opens : s.stop = body.length ∨
    ∃ line, body[s.stop]? = some line ∧ (opening line).isSome = true

/-- A division of a body: one section for each line that opens one, side by side up to the end. -/
structure IsDivision (opening : Text → Option Keyword) (body : List Text) (ss : List Section) :
    Prop where
  openings_eq : ss.map (fun s => (s.start, s.keyword)) = openingsFrom opening 0 body
  runsToNext : ∀ s ∈ ss, RunsToNext opening body s
  contiguous : ss.map Section.stop = (ss.map Section.start ++ [body.length]).tail
  flatMap_lines : ss.flatMap (fun s => s.lines body) =
    body.dropWhile fun l => (opening l).isNone

/-!
# Ends of sections

Two sections that begin at the same line end at the same line, since neither can pass the end of
the other.
-/

theorem RunsToNext.stop_le {body : List Text} {s t : Section} (hs : RunsToNext opening body s)
    (ht : RunsToNext opening body t) (hstart : s.start = t.start) : s.stop ≤ t.stop := by
  by_contra hlt
  have hinside : s.start < t.stop := by
    rw [hstart]
    exact ht.start_lt_stop
  rcases ht.stop_opens with hend | ⟨line, hline, hopens⟩
  · have hle := hs.stop_le_length
    omega
  · rw [hs.inside_none t.stop line hinside (by omega) hline] at hopens
    cases hopens

theorem RunsToNext.eq_of_start {body : List Text} {s t : Section}
    (hs : RunsToNext opening body s) (ht : RunsToNext opening body t)
    (hstart : s.start = t.start) (hkeyword : s.keyword = t.keyword) : s = t := by
  have hstop : s.stop = t.stop :=
    Nat.le_antisymm (hs.stop_le ht hstart) (ht.stop_le hs hstart.symm)
  cases s
  cases t
  cases hstart
  cases hkeyword
  cases hstop
  rfl

theorem eq_of_openings_eq {body : List Text} {ss ts : List Section}
    (h : ss.map (fun s => (s.start, s.keyword)) = ts.map fun t => (t.start, t.keyword))
    (hs : ∀ s ∈ ss, RunsToNext opening body s) (ht : ∀ t ∈ ts, RunsToNext opening body t) :
    ss = ts := by
  induction ss generalizing ts with
  | nil =>
      exact (List.map_eq_nil_iff.mp h.symm).symm
  | cons s rest ih =>
      cases ts with
      | nil =>
          cases h
      | cons t later =>
          injection h with hfirst hrest
          injection hfirst with hstart hkeyword
          have hst : s = t :=
            (hs s (by simp)).eq_of_start (ht t (by simp)) hstart hkeyword
          rw [hst, ih hrest (fun u hu => hs u (by simp [hu])) fun u hu => ht u (by simp [hu])]

theorem runsToNext_of_split {s : Section} {front inner back : List Text} {line : Text}
    (hstart : s.start = front.length) (hstop : s.stop = front.length + 1 + inner.length)
    (hinner : ∀ l ∈ inner, opening l = none) (hback : ∀ l ∈ back.head?, (opening l).isSome = true) :
    RunsToNext opening (front ++ line :: (inner ++ back)) s := by
  have hbehind : ∀ i, (front ++ line :: (inner ++ back))[front.length + 1 + i]? =
      (inner ++ back)[i]? := by
    intro i
    rw [← List.singleton_append, ← List.append_assoc, List.getElem?_append_right (by simp)]
    simp
  have hlength : (front ++ line :: (inner ++ back)).length =
      front.length + 1 + inner.length + back.length := by
    rw [List.length_append, List.length_cons, List.length_append]
    omega
  refine ⟨by omega, by omega, ?_, ?_⟩
  · intro i l hlow hhigh hl
    obtain ⟨j, rfl⟩ : ∃ j, i = front.length + 1 + j := ⟨i - (front.length + 1), by omega⟩
    rw [hbehind, List.getElem?_append_left (by omega)] at hl
    exact hinner l (List.mem_of_getElem? hl)
  · rw [hlength, hstop, hbehind, List.getElem?_append_right (Nat.le_refl _), Nat.sub_self]
    cases back with
    | nil =>
        exact Or.inl rfl
    | cons next later =>
        exact Or.inr ⟨next, rfl, hback next rfl⟩

/-!
# The sections of a body

A section counts the lines before those that are left, so each statement is about the sections of
lines with any number of lines before them.
-/

theorem map_openings_sectionsFrom (opening : Text → Option Keyword) (n : Nat) (body : List Text) :
    (sectionsFrom opening n body).map (fun s => (s.start, s.keyword)) =
      openingsFrom opening n body := by
  induction body generalizing n with
  | nil =>
      rfl
  | cons line rest ih =>
      have hrest := ih (n + 1)
      rw [openingsFrom] at hrest
      cases hline : opening line with
      | none =>
          simp [sectionsFrom, openingsFrom, hline, hrest]
      | some k =>
          simp [sectionsFrom, openingsFrom, hline, hrest]

theorem runsToNext_first (k : Keyword) (line : Text) (before rest : List Text) :
    RunsToNext opening (before ++ line :: rest) ⟨k, before.length,
      before.length + 1 + (rest.takeWhile fun l => (opening l).isNone).length⟩ := by
  have hinner : ∀ l ∈ rest.takeWhile fun l => (opening l).isNone, opening l = none := by
    intro l hl
    simpa using List.mem_takeWhile_imp hl
  have hback : ∀ l ∈ (rest.dropWhile fun l => (opening l).isNone).head?,
      (opening l).isSome = true := by
    intro l hl
    simpa using Text.not_of_mem_head?_dropWhile l hl
  conv in before ++ line :: rest =>
    rw [← List.takeWhile_append_dropWhile (p := fun l => (opening l).isNone) (l := rest)]
  exact runsToNext_of_split rfl rfl hinner hback

theorem runsToNext_of_mem_sectionsFrom (before : List Text) {body : List Text} {s : Section}
    (h : s ∈ sectionsFrom opening before.length body) :
    RunsToNext opening (before ++ body) s := by
  induction body generalizing before with
  | nil =>
      cases h
  | cons line rest ih =>
      have hlater : s ∈ sectionsFrom opening (before.length + 1) rest →
          RunsToNext opening (before ++ line :: rest) s := by
        intro hs
        have hnext := ih (before ++ [line]) (by simpa using hs)
        rwa [List.append_assoc, List.singleton_append] at hnext
      rw [sectionsFrom] at h
      cases hline : opening line with
      | none =>
          rw [hline] at h
          exact hlater h
      | some k =>
          rw [hline] at h
          rcases List.mem_cons.mp h with rfl | hs
          · exact runsToNext_first k line before rest
          · exact hlater hs

/-- Each section stops where the next one starts, and the last one at the end. -/
theorem starts_sectionsFrom (opening : Text → Option Keyword) (n : Nat) (body : List Text) :
    (sectionsFrom opening n body).map Section.start ++ [n + body.length] =
      (n + (body.takeWhile fun l => (opening l).isNone).length) ::
        (sectionsFrom opening n body).map Section.stop := by
  induction body generalizing n with
  | nil =>
      rfl
  | cons line rest ih =>
      have hrest := ih (n + 1)
      rw [Nat.add_assoc, Nat.add_comm 1] at hrest
      cases hline : opening line with
      | none =>
          simp [sectionsFrom, hline, hrest]
          omega
      | some k =>
          simp [sectionsFrom, hline, hrest]

theorem flatMap_lines_cluster (opening : Text → Option Keyword) (body : List Text) :
    (cluster opening body).flatMap (fun s => s.lines body) =
      body.dropWhile fun l => (opening l).isNone := by
  have hpieces := takeWhile_append_flatMap_pieces opening body
  rw [← map_cluster, List.flatMap_map] at hpieces
  exact List.append_cancel_left (hpieces.trans List.takeWhile_append_dropWhile.symm)

/-- The sections of a body are the only division of it, for every way of reading lines. -/
theorem cluster_eq_iff_isDivision (opening : Text → Option Keyword) (body : List Text)
    (ss : List Section) : cluster opening body = ss ↔ IsDivision opening body ss := by
  have hopenings := map_openings_sectionsFrom opening 0 body
  have hstarts := congrArg List.tail (starts_sectionsFrom opening 0 body)
  rw [Nat.zero_add, List.tail_cons] at hstarts
  rw [← cluster_eq_sectionsFrom] at hopenings hstarts
  have hruns : ∀ s ∈ cluster opening body, RunsToNext opening body s := by
    intro s hs
    rw [cluster_eq_sectionsFrom] at hs
    exact runsToNext_of_mem_sectionsFrom [] hs
  constructor
  · rintro rfl
    exact ⟨hopenings, hruns, hstarts.symm, flatMap_lines_cluster opening body⟩
  · intro h
    exact eq_of_openings_eq (hopenings.trans h.openings_eq.symm) hruns h.runsToNext

end Section
end EndpointDocs
