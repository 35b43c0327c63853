import EndpointDocs.Proofs.Block.WrittenComments
import EndpointDocs.Proofs.Text.LineEnds
import Mathlib.Data.List.Forall2

/-!
# Comments with carriage returns

A line comment that gets a carriage return at its end, and a block comment that gets one before
every line feed, have the same lines as before and open a block if they did before.  So a reading
cannot tell groups of such comments apart.
-/

namespace EndpointDocs

open Text (withReturns)

/-!
# Markers
-/

namespace Marker

theorem isSome_read?_withReturns (t : Text) :
    (read? (withReturns t)).isSome = (read? t).isSome := by
  rw [read?, read?, Text.dropWhile_withReturns (by decide),
    Text.after?_withReturns (by decide) (by decide)]
  cases Text.after? "apidoc(".toList (t.dropWhile isLeading) with
  | none =>
      rfl
  | some rest =>
      rw [Option.map_some, Option.bind_some, Option.bind_some, Bool.eq_iff_iff,
        isSome_fromName?_iff, isSome_fromName?_iff, ne_eq, ne_eq,
        Text.head?_withReturns_eq_some_iff (by decide) (by decide),
        Text.mem_withReturns_iff (by decide)]

theorem isSome_read?_append_return (t : Text) :
    (read? (t ++ ['\r'])).isSome = (read? t).isSome := by
  rw [Bool.eq_iff_iff, Option.isSome_iff_exists, Option.isSome_iff_exists]
  constructor
  · rintro ⟨m, hm⟩
    rcases exists_eq_of_read?_append (by decide) hm with ⟨lead, rest, ht, hlead, hne, hname⟩
    exact ⟨⟨m.name, withoutColon rest⟩,
      read?_eq_some_iff.mpr ⟨lead, rest, ht, hlead, hne, hname, rfl⟩⟩
  · rintro ⟨m, hm⟩
    rcases read?_eq_some_iff.mp hm with ⟨lead, rest, ht, hlead, hne, hname, -⟩
    refine ⟨⟨m.name, withoutColon (rest ++ ['\r'])⟩, read?_eq_some_iff.mpr
      ⟨lead, rest ++ ['\r'], ?_, hlead, hne, hname, rfl⟩⟩
    rw [ht]
    simp

end Marker

/-!
# Lines of comments
-/

namespace Comment

theorem isDirective_append {c : Char} (h : isToolChar c = false) (t : Text) :
    isDirective (t ++ [c]) = isDirective t := by
  have htake : (t ++ [c]).takeWhile isToolChar = t.takeWhile isToolChar := by
    rw [List.takeWhile_append, List.takeWhile_cons_of_neg (by simp [h]), List.append_nil]
    split
    · next hlength =>
        exact ((List.takeWhile_prefix isToolChar).eq_of_length hlength).symm
    · rfl
  rw [isDirective, isDirective, htake]
  cases t.takeWhile isToolChar with
  | nil =>
      rfl
  | cons a tools =>
      cases hdrop : t.dropWhile isToolChar with
      | nil =>
          simp [List.dropWhile_append, hdrop, h]
      | cons d more =>
          have hrest : (t ++ [c]).dropWhile isToolChar = d :: (more ++ [c]) := by
            simp [List.dropWhile_append, hdrop]
          rw [hrest]
          by_cases hd : d = ':'
          · subst hd
            cases more with
            | nil =>
                exact h
            | cons e later =>
                rfl
          · simp [hd]

theorem contentLines_line_append_return (t : Text) :
    contentLines ('/' :: '/' :: (t ++ ['\r'])) = contentLines ('/' :: '/' :: t) := by
  by_cases hspace : ∃ rest, t = ' ' :: rest
  · rcases hspace with ⟨rest, rfl⟩
    exact Text.map_trimEnd_lines_append_return rest
  · have hline : ∀ u : Text, (∀ rest, u ≠ ' ' :: rest) →
        inner? ('/' :: '/' :: u) = if isDirective u then none else some u := by
      intro u hu
      rw [inner?]
      exact hu
    have ht : ∀ rest, t ≠ ' ' :: rest := fun rest heq => hspace ⟨rest, heq⟩
    have ht' : ∀ rest, t ++ ['\r'] ≠ ' ' :: rest := by
      intro rest heq
      cases t with
      | nil =>
          cases heq
      | cons c later =>
          injection heq with hc
          exact ht later (by rw [hc])
    rw [contentLines, contentLines, hline _ ht, hline _ ht', isDirective_append (by decide)]
    cases isDirective t with
    | true =>
        rfl
    | false =>
        exact Text.map_trimEnd_lines_append_return t

theorem contentLines_block_withReturns (t : Text) :
    contentLines ('/' :: '*' :: (withReturns t ++ ['*', '/'])) =
      contentLines ('/' :: '*' :: (t ++ ['*', '/'])) := by
  rw [contentLines_enclosed, contentLines_enclosed]
  exact Text.map_trimEnd_lines_withReturns t

end Comment

/-!
# Comments that are read alike
-/

namespace Block

/-- Whether two comments say the same lines and both open a block or neither does. -/
structure ReadsAlike (raw raw' : Text) : Prop where
  contentLines : Comment.contentLines raw' = Comment.contentLines raw
  isMarked : isMarked raw' = isMarked raw

theorem ReadsAlike.refl (raw : Text) : ReadsAlike raw raw :=
  ⟨rfl, rfl⟩

theorem ReadsAlike.line (t : Text) :
    ReadsAlike ('/' :: '/' :: t) ('/' :: '/' :: (t ++ ['\r'])) where
  contentLines := Comment.contentLines_line_append_return t
  isMarked := Marker.isSome_read?_append_return ('/' :: '/' :: t)

theorem ReadsAlike.block (t : Text) :
    ReadsAlike ('/' :: '*' :: (t ++ ['*', '/'])) ('/' :: '*' :: (withReturns t ++ ['*', '/'])) where
  contentLines := Comment.contentLines_block_withReturns t
  isMarked := by
    have hraw : '/' :: '*' :: (withReturns t ++ ['*', '/']) =
        withReturns ('/' :: '*' :: (t ++ ['*', '/'])) := by
      rw [Text.withReturns_cons (by decide), Text.withReturns_cons (by decide),
        Text.withReturns_append, Text.withReturns_eq_self (t := ['*', '/']) (by decide)]
    rw [hraw]
    exact Marker.isSome_read?_withReturns _

theorem contentLines_alike {raws raws' : List Text} (h : List.Forall₂ ReadsAlike raws raws') :
    raws'.flatMap Comment.contentLines = raws.flatMap Comment.contentLines := by
  induction h with
  | nil =>
      rfl
  | cons hraw _ ih =>
      rw [List.flatMap_cons, List.flatMap_cons, hraw.contentLines, ih]

theorem plainText_alike {raws raws' : List Text} (h : List.Forall₂ ReadsAlike raws raws') :
    Comment.plainText raws' = Comment.plainText raws := by
  rw [Comment.plainText, Comment.plainText, contentLines_alike h]

theorem outcome_alike {block block' : List Text} (h : List.Forall₂ ReadsAlike block block') :
    outcome block' = outcome block := by
  rw [outcome, outcome, plainText_alike h]

theorem takeWhile_unmarked_alike {raws raws' : List Text}
    (h : List.Forall₂ ReadsAlike raws raws') :
    List.Forall₂ ReadsAlike (raws.takeWhile fun r => !isMarked r)
      (raws'.takeWhile fun r => !isMarked r) := by
  induction h with
  | nil =>
      exact List.Forall₂.nil
  | @cons raw raw' _ _ hraw _ ih =>
      rw [List.takeWhile_cons, List.takeWhile_cons, hraw.isMarked]
      cases isMarked raw with
      | true =>
          exact List.Forall₂.nil
      | false =>
          exact List.Forall₂.cons hraw ih

/-- Groups of comments that are read alike have blocks that come to the same. -/
theorem map_outcome_ofGroup_alike {raws raws' : List Text}
    (h : List.Forall₂ ReadsAlike raws raws') :
    (ofGroup raws').map outcome = (ofGroup raws).map outcome := by
  induction h with
  | nil =>
      rfl
  | @cons raw raw' _ _ hraw hrest ih =>
      rw [ofGroup, ofGroup, hraw.isMarked]
      cases isMarked raw with
      | true =>
          rw [if_pos rfl, if_pos rfl, List.map_cons, List.map_cons, ih,
            outcome_alike (List.Forall₂.cons hraw (takeWhile_unmarked_alike hrest))]
      | false =>
          rw [if_neg Bool.false_ne_true, if_neg Bool.false_ne_true, ih]

end Block

namespace Reading

theorem ofGroups_alike {groups groups' : List (List Text)}
    (h : List.Forall₂ (List.Forall₂ Block.ReadsAlike) groups groups') (strict : Bool) :
    ofGroups strict groups' = ofGroups strict groups := by
  have houtcomes : (groups'.flatMap Block.ofGroup).map Block.outcome =
      (groups.flatMap Block.ofGroup).map Block.outcome := by
    induction h with
    | nil =>
        rfl
    | cons hgroup _ ih =>
        rw [List.flatMap_cons, List.flatMap_cons, List.map_append, List.map_append, ih,
          Block.map_outcome_ofGroup_alike hgroup]
  rw [ofGroups, ofGroups, houtcomes]

end Reading
end EndpointDocs
