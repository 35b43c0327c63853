import EndpointDocs.Program.Job
import EndpointDocs.Proofs.Comment.LineEnds

/-!
# Line ends do not count

A source says the same whether its lines end with a line feed or with a carriage return and a line
feed: its comments form the same groups with the same plain text, so a reading takes the same notes
and finds the same endpoints, and every document about them is the same.
-/

namespace EndpointDocs
namespace Job

open Text (withReturns)

theorem forall₂_texts {g g' : List Comment}
    (h : List.Forall₂ (fun c c' => Block.ReadsAlike c.text c'.text) g g') :
    List.Forall₂ Block.ReadsAlike (g.map Comment.text) (g'.map Comment.text) := by
  rw [List.forall₂_map_left_iff, List.forall₂_map_right_iff]
  exact h

theorem forall₂_commentGroups (source : Text) :
    List.Forall₂ (List.Forall₂ Block.ReadsAlike) (commentGroups source (Comment.ofSource source))
      (commentGroups (withReturns source) (Comment.ofSource (withReturns source))) := by
  rw [commentGroups, commentGroups, List.forall₂_map_left_iff, List.forall₂_map_right_iff]
  exact (Comment.matched_ofSource source).forall₂_groups.imp fun _ _ => forall₂_texts

/-- With carriage returns before its line feeds a source has the same groups of comments, with the
same plain text, and the same reading. -/
theorem readSource_withReturns (source : Text) :
    List.Forall₂
      (fun g g' => g'.length = g.length ∧
        Comment.plainText (g'.map Comment.text) = Comment.plainText (g.map Comment.text))
      (Comment.groups source (Comment.ofSource source))
      (Comment.groups (withReturns source) (Comment.ofSource (withReturns source))) ∧
    ∀ strict, readSource strict (withReturns source) = readSource strict source ∧
      ∀ format : Format, (readSource strict (withReturns source)).result.map format.document =
        (readSource strict source).result.map format.document := by
  have hreading : ∀ strict, readSource strict (withReturns source) = readSource strict source :=
    Reading.ofGroups_alike (forall₂_commentGroups source)
  constructor
  · refine (Comment.matched_ofSource source).forall₂_groups.imp fun g g' hgroup => ?_
    exact ⟨hgroup.length_eq.symm, Block.plainText_alike (forall₂_texts hgroup)⟩
  · intro strict
    refine ⟨hreading strict, fun format => ?_⟩
    rw [hreading strict]

end Job
end EndpointDocs
