import EndpointDocs.Proofs.Block.MarkedLines

/-!
# Directives between comments

A directive says nothing and opens no block, whatever stands behind its colon.  Between the comments
of a group it changes neither where the blocks begin nor what they say, so a reading does not notice
it.
-/

namespace EndpointDocs
namespace Block

/-- Whether a comment says nothing and opens no block. -/
structure IsSilent (raw : Text) : Prop where
  contentLines : Comment.contentLines raw = []
  isMarked : isMarked raw = false

/-!
# Directives are silent
-/

theorem contentLines_of_isInstruction {t : Text} (h : Comment.IsInstruction t) :
    Comment.contentLines ('/' :: '/' :: t) = [] := by
  have hdirective := Comment.isDirective_eq_true_iff.mpr h
  have hspace : ∀ rest, t ≠ ' ' :: rest := by
    intro rest heq
    rw [heq] at hdirective
    cases hdirective
  have hinner : Comment.inner? ('/' :: '/' :: t) = none := by
    rw [Comment.inner?, if_pos hdirective]
    exact hspace
  rw [Comment.contentLines, hinner]

theorem isSilent_of_isInstruction {t : Text} (h : Comment.IsInstruction t) :
    IsSilent ('/' :: '/' :: t) where
  contentLines := contentLines_of_isInstruction h
  isMarked := by
    have hslashes : isMarked ('/' :: '/' :: t) = (Marker.read? t).isSome := rfl
    rw [hslashes]
    exact Comment.isSome_read?_eq_false_of_isInstruction h

/-!
# Silent comments in a group
-/

variable {raw : Text}

theorem flatMap_contentLines_unmarked_insert (h : IsSilent raw) (front back : List Text) :
    ((front ++ raw :: back).takeWhile fun r => !isMarked r).flatMap Comment.contentLines =
      ((front ++ back).takeWhile fun r => !isMarked r).flatMap Comment.contentLines := by
  induction front with
  | nil =>
      rw [List.nil_append, List.takeWhile_cons_of_pos (by simp [h.isMarked]), List.flatMap_cons,
        h.contentLines]
      rfl
  | cons first rest ih =>
      rw [List.cons_append, List.cons_append, List.takeWhile_cons, List.takeWhile_cons]
      cases isMarked first with
      | true =>
          rfl
      | false =>
          exact congrArg (Comment.contentLines first ++ ·) ih

theorem outcome_insert (h : IsSilent raw) (opening : Text) (front back : List Text) :
    outcome (opening :: (front ++ raw :: back).takeWhile fun r => !isMarked r) =
      outcome (opening :: (front ++ back).takeWhile fun r => !isMarked r) := by
  rw [outcome, outcome, Comment.plainText, Comment.plainText, List.flatMap_cons, List.flatMap_cons,
    flatMap_contentLines_unmarked_insert h]

/-- The blocks of a group come to the same with a silent comment anywhere in it. -/
theorem map_outcome_ofGroup_insert (h : IsSilent raw) (front back : List Text) :
    (ofGroup (front ++ raw :: back)).map outcome = (ofGroup (front ++ back)).map outcome := by
  induction front with
  | nil =>
      rw [List.nil_append, ofGroup, h.isMarked, if_neg Bool.false_ne_true]
      rfl
  | cons first rest ih =>
      rw [List.cons_append, List.cons_append, ofGroup, ofGroup]
      cases isMarked first with
      | true =>
          rw [if_pos rfl, if_pos rfl, List.map_cons, List.map_cons, outcome_insert h, ih]
      | false =>
          rw [if_neg Bool.false_ne_true, if_neg Bool.false_ne_true, ih]

end Block

namespace Reading

/-- A directive anywhere in a group changes neither what a reading finds nor what it notes. -/
theorem ofGroups_insert_directive (strict : Bool) (before after : List (List Text))
    (front back : List Text) {t : Text} (h : Comment.IsInstruction t) :
    ofGroups strict (before ++ (front ++ ('/' :: '/' :: t) :: back) :: after) =
      ofGroups strict (before ++ (front ++ back) :: after) := by
  have hgroup := Block.map_outcome_ofGroup_insert (Block.isSilent_of_isInstruction h) front back
  rw [ofGroups, ofGroups, List.flatMap_append, List.flatMap_append, List.flatMap_cons,
    List.flatMap_cons, List.map_append, List.map_append, List.map_append, List.map_append, hgroup]

/-- What follows the slashes of a directive that has a marker and a request in it. -/
def generatePong : Text :=
  "go:generate apidoc(pong) GET /pong".toList

theorem ofGroups_insert_directive_generatePong :
    Comment.IsInstruction generatePong ∧
      (ofGroups true [["// apidoc(ping)".toList, '/' :: '/' :: generatePong,
        "// GET /ping".toList]]).result =
        .ok [{ name := "ping".toList, method := "GET".toList, urlTemplate := "/ping".toList }] := by
  have hgenerate : Comment.IsInstruction generatePong :=
    Comment.isDirective_eq_true_iff.mp (by decide +kernel)
  have hinsert := ofGroups_insert_directive true [] [] ["// apidoc(ping)".toList]
    ["// GET /ping".toList] hgenerate
  refine ⟨hgenerate, ?_⟩
  rw [List.nil_append, List.nil_append, List.singleton_append, List.singleton_append] at hinsert
  rw [hinsert]
  decide +kernel

end Reading
end EndpointDocs
