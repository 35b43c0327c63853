import EndpointDocs.Comment.Grouping
import EndpointDocs.Proofs.Text.Places
import Mathlib.Data.List.Chain
import Mathlib.Data.List.SplitBy

/-!
# Groups are a partition

The groups of a list of comments are that list cut into pieces, none of them empty.  A cut is made
exactly where the text between two consecutive comments is not a gap: where there is no such text,
where something stands in it, or where it has more than one line feed.  The list has only one
partition of this kind, whatever places the comments have.
-/

namespace EndpointDocs
namespace Comment

/-!
# Gaps

The places of a comment are numbers, so the place at which a comment begins may lie before the end
of the comment that precedes it in the list, inside a character, or behind the source.  Then the
source has no text between them.
-/

/-- A text of a source between two comments: it begins where the first stops and stops where the
second begins. -/
def IsBetween (source : Text) (first second : Comment) (t : Text) : Prop :=
  ∃ front back, source = front ++ (t ++ back) ∧ first.stop = Text.byteLength front ∧
    second.start = Text.byteLength front + Text.byteLength t

/-- Whether only blanks with at most one line feed stand between two comments of a source. -/
def AreNeighbours (source : Text) (first second : Comment) : Prop :=
  ∃ gap, IsBetween source first second gap ∧ (∀ c ∈ gap, Text.isBlank c = true) ∧
    gap.count '\n' ≤ 1

theorem adjoins_eq_true_iff {source : Text} {first second : Comment} :
    adjoins source first second = true ↔ AreNeighbours source first second := by
  unfold adjoins
  constructor
  · intro h
    split at h
    · next gap hslice =>
        rw [Bool.and_eq_true, decide_eq_true_eq, Text.allBlank, List.all_eq_true] at h
        exact ⟨gap, Text.slice?_eq_some_iff.mp hslice, h.left, h.right⟩
    · cases h
  · rintro ⟨gap, hbetween, hblank, hcount⟩
    rw [Text.slice?_eq_some_iff.mpr hbetween]
    exact Bool.and_eq_true_iff.mpr ⟨List.all_eq_true.mpr hblank, decide_eq_true hcount⟩

/-!
# Consecutive members of a partition

Members of a list that has been cut into pieces are told by their number in the whole list, since
the same comment may occur in it twice.
-/

section Pieces

variable {α : Type} {pieces : List (List α)} {before later : List α} {a b : α}

/-- Whether the members with the numbers `i` and `i + 1` are in the same piece. -/
def StandTogether (pieces : List (List α)) (i : Nat) : Prop :=
  ∃ front piece back, pieces = front ++ piece :: back ∧ front.flatten.length ≤ i ∧
    i + 1 < front.flatten.length + piece.length

theorem standTogether_of_inside {front back : List (List α)} {x y : List α}
    (hpieces : pieces = front ++ (x ++ a :: b :: y) :: back)
    (hbefore : before = front.flatten ++ x) : StandTogether pieces before.length := by
  refine ⟨front, x ++ a :: b :: y, back, hpieces, ?_, ?_⟩
  · rw [hbefore, List.length_append]
    omega
  · rw [hbefore, List.length_append, List.length_append, List.length_cons, List.length_cons]
    omega

theorem eq_or_length_le_of_append {mid back back' : List (List α)} {piece piece' : List α}
    (h : piece :: back = mid ++ piece' :: back') :
    (mid = [] ∧ piece = piece') ∨ piece.length ≤ mid.flatten.length := by
  cases mid with
  | nil =>
      injection h with hpiece _
      exact Or.inl ⟨rfl, hpiece⟩
  | cons first others =>
      injection h with hpiece _
      rw [hpiece, List.flatten_cons, List.length_append]
      exact Or.inr (Nat.le_add_right _ _)

theorem not_standTogether_of_end {front back : List (List α)} {x : List α}
    (hpieces : pieces = front ++ (x ++ [a]) :: back) (hbefore : before = front.flatten ++ x) :
    ¬ StandTogether pieces before.length := by
  rintro ⟨front', piece, back', hpieces', hlow, hhigh⟩
  have hend : before.length + 1 = front.flatten.length + (x ++ [a]).length := by
    rw [hbefore, List.length_append, List.length_append, List.length_singleton, Nat.add_assoc]
  have hx : front.flatten.length ≤ before.length := by
    rw [hbefore, List.length_append]
    omega
  rw [hpieces] at hpieces'
  -- The piece of both members would be the one that ends between them, or before it, or behind it.
  rcases List.append_eq_append_iff.mp hpieces' with ⟨mid, rfl, hmid⟩ | ⟨mid, rfl, hmid⟩
  · rw [List.flatten_append, List.length_append] at hlow hhigh
    rcases eq_or_length_le_of_append hmid with ⟨rfl, hpiece⟩ | hle
    · rw [← hpiece, List.flatten_nil, List.length_nil] at hhigh
      omega
    · omega
  · rw [List.flatten_append, List.length_append] at hend hx
    rcases eq_or_length_le_of_append hmid with ⟨rfl, hpiece⟩ | hle
    · rw [List.flatten_nil, List.length_nil, ← hpiece] at hend
      omega
    · omega

/-- Every member is in some piece, with those before it in that piece and in earlier ones. -/
theorem exists_piece (hpieces : ∀ p ∈ pieces, p ≠ []) (h : pieces.flatten = before ++ a :: later) :
    ∃ front x y back, pieces = front ++ (x ++ a :: y) :: back ∧ before = front.flatten ++ x ∧
      later = y ++ back.flatten := by
  rcases List.flatten_eq_append_iff.mp h with
    ⟨front, more, hsplit, hbefore, hmore⟩ | ⟨front, x, c, y, back, hsplit, hbefore, hrest⟩
  · cases more with
    | nil =>
        cases hmore
    | cons p back =>
        have hp : p ≠ [] := hpieces p (by simp [hsplit])
        rcases List.exists_cons_of_ne_nil hp with ⟨c, y, rfl⟩
        injection hmore with hc hlater
        subst hc
        refine ⟨front, [], y, back, hsplit, ?_, hlater⟩
        rw [hbefore, List.append_nil]
  · injection hrest with hc hlater
    subst hc
    exact ⟨front, x, y, back, hsplit, hbefore, hlater⟩

/-- Two consecutive members are in one piece, or the first ends a piece and the second begins the
next one. -/
theorem exists_inside_or_end (hpieces : ∀ p ∈ pieces, p ≠ [])
    (h : pieces.flatten = before ++ a :: b :: later) :
    (∃ front x y back, pieces = front ++ (x ++ a :: b :: y) :: back ∧
      before = front.flatten ++ x) ∨
    ∃ front x y back, pieces = front ++ (x ++ [a]) :: (b :: y) :: back ∧
      before = front.flatten ++ x := by
  rcases exists_piece hpieces h with ⟨front, x, y, back, hsplit, hbefore, hlater⟩
  cases y with
  | cons c more =>
      injection hlater with hc _
      subst hc
      exact Or.inl ⟨front, x, more, back, hsplit, hbefore⟩
  | nil =>
      cases back with
      | nil =>
          cases hlater
      | cons p others =>
          have hp : p ≠ [] := hpieces p (by simp [hsplit])
          rcases List.exists_cons_of_ne_nil hp with ⟨c, more, rfl⟩
          injection hlater with hc _
          subst hc
          exact Or.inr ⟨front, x, more, others, hsplit, hbefore⟩

end Pieces

/-!
# The partition
-/

/-- A partition of a list of comments in which consecutive comments are in the same group exactly
if they are neighbours. -/
structure IsGrouping (source : Text) (comments : List Comment) (gs : List (List Comment)) :
    Prop where
  flatten_eq : gs.flatten = comments
  ne_nil : ∀ group ∈ gs, group ≠ []
  standTogether_iff : ∀ before first second later, comments = before ++ first :: second :: later →
    (StandTogether gs before.length ↔ AreNeighbours source first second)

theorem isGrouping_groups (source : Text) (comments : List Comment) :
    IsGrouping source comments (groups source comments) := by
  have hflatten : (groups source comments).flatten = comments := List.flatten_splitBy _ _
  have hne : ∀ group ∈ groups source comments, group ≠ [] :=
    fun group hgroup => List.ne_nil_of_mem_splitBy hgroup
  have hjoined : ∀ group ∈ groups source comments,
      group.IsChain fun first second => adjoins source first second = true :=
    fun group hgroup => List.isChain_of_mem_splitBy hgroup
  have hcut := List.isChain_getLast_head_splitBy (adjoins source) comments
  refine ⟨hflatten, hne, ?_⟩
  intro before first second later hcomments
  rw [← adjoins_eq_true_iff]
  rcases exists_inside_or_end hne (hflatten.trans hcomments) with
    ⟨front, x, y, back, hgroups, hbefore⟩ | ⟨front, x, y, back, hgroups, hbefore⟩
  · have hadjoins := (List.isChain_append_cons_cons.mp
      (hjoined (x ++ first :: second :: y) (by simp [hgroups]))).right.left
    exact iff_of_true (standTogether_of_inside hgroups hbefore) hadjoins
  · rw [← groups, hgroups] at hcut
    obtain ⟨_, _, hapart⟩ := (List.isChain_append_cons_cons.mp hcut).right.left
    rw [List.getLast_concat, List.head_cons] at hapart
    exact iff_of_false (not_standTogether_of_end hgroups hbefore) (by simp [hapart])

theorem groups_eq_iff_isGrouping (source : Text) (comments : List Comment)
    (gs : List (List Comment)) :
    groups source comments = gs ↔ IsGrouping source comments gs := by
  constructor
  · rintro rfl
    exact isGrouping_groups source comments
  · rintro ⟨hflatten, hne, htogether⟩
    rw [groups, List.splitBy_eq_iff]
    refine ⟨hflatten.symm, fun hnil => hne [] hnil rfl, ?_, ?_⟩
    · intro group hgroup
      rw [List.isChain_iff_forall_rel_of_append_cons_cons]
      intro first second x y hsplit
      rcases List.append_of_mem hgroup with ⟨front, back, hgs⟩
      rw [hsplit] at hgs
      have hcomments :
          comments = (front.flatten ++ x) ++ first :: second :: (y ++ back.flatten) := by
        rw [← hflatten, hgs]
        simp
      rw [adjoins_eq_true_iff]
      exact (htogether _ _ _ _ hcomments).mp (standTogether_of_inside hgs rfl)
    · rw [List.isChain_iff_forall_rel_of_append_cons_cons]
      intro group next front back hgs
      have hgroup : group ≠ [] := hne group (by simp [hgs])
      have hnext : next ≠ [] := hne next (by simp [hgs])
      refine ⟨hgroup, hnext, ?_⟩
      rcases List.exists_cons_of_ne_nil hnext with ⟨second, y, rfl⟩
      have hend : group = group.dropLast ++ [group.getLast hgroup] :=
        (List.dropLast_concat_getLast hgroup).symm
      have hcomments : comments = (front.flatten ++ group.dropLast) ++
          group.getLast hgroup :: second :: (y ++ back.flatten) := by
        rw [← hflatten, hgs]
        conv_lhs => rw [hend]
        simp
      have hapart := mt (htogether _ _ _ _ hcomments).mpr
        (not_standTogether_of_end (a := group.getLast hgroup) (by rw [← hend]; exact hgs) rfl)
      rw [← adjoins_eq_true_iff] at hapart
      simpa using hapart

end Comment
end EndpointDocs
