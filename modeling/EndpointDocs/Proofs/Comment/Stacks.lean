import EndpointDocs.Comment.Grouping
import EndpointDocs.Proofs.Comment.Segments
import EndpointDocs.Proofs.Text.Lines
import Mathlib.Data.List.SplitBy

/-!
# Comments one under the other

Two comments belong together when the text between them is blank and has at most one line feed.  So
comments that stand one under the other, with nothing but a line feed between neighbours, are all
in one group.
-/

namespace EndpointDocs
namespace Comment

theorem adjoins_of_gap {front : Text} {first second : Comment} (gap back : Text)
    (hfirst : first.stop = Text.byteLength front)
    (hsecond : second.start = Text.byteLength front + Text.byteLength gap) :
    adjoins (front ++ (gap ++ back)) first second =
      (Text.allBlank gap && decide (gap.count '\n' ≤ 1)) := by
  rw [adjoins, hfirst, hsecond, Text.slice?_append]

theorem groups_cons_cons (source : Text) (c d : Comment) (later : List Comment) :
    groups source (c :: d :: later) =
      if adjoins source c d then (groups source (d :: later)).modifyHead (c :: ·)
      else [c] :: groups source (d :: later) := by
  cases hadjoins : adjoins source c d with
  | false =>
      have hapart := List.splitBy_append_cons (r := adjoins source) (l := [c]) (a := d) later
        (by simpa using hadjoins)
      exact hapart
  | true =>
      cases hgroups : groups source (d :: later) with
      | nil =>
          exact absurd hgroups (List.splitBy_ne_nil.mpr (List.cons_ne_nil d later))
      | cons group others =>
          rcases List.splitBy_eq_iff.mp hgroups with ⟨hflatten, hnil, hchains, hapart⟩
          cases group with
          | nil =>
              exact absurd List.mem_cons_self hnil
          | cons e more =>
              injection hflatten with he hlater
              subst he
              rw [if_pos rfl, List.modifyHead_cons, groups, List.splitBy_eq_iff]
              refine ⟨?_, ?_, ?_, ?_⟩
              · rw [hlater]
                rfl
              · simpa using hnil
              · intro group hgroup
                rcases List.mem_cons.mp hgroup with rfl | hothers
                · exact List.isChain_cons_cons.mpr ⟨hadjoins, hchains _ List.mem_cons_self⟩
                · exact hchains group (List.mem_cons_of_mem _ hothers)
              · rw [List.isChain_cons] at hapart ⊢
                refine ⟨?_, hapart.right⟩
                intro next hnext
                rcases hapart.left next hnext with ⟨_, hne, hlast⟩
                exact ⟨List.cons_ne_nil c _, hne, hlast⟩

end Comment

namespace Segment

/-- Segments with a line feed between neighbours. -/
def stacked : List Segment → List Segment
  | [] => []
  | [s] => [s]
  | s :: next :: later => s :: .code ['\n'] :: stacked (next :: later)

theorem written_stacked (ss : List Segment) :
    written (stacked ss) = Text.unlines (ss.map text) := by
  induction ss using stacked.induct with
  | case1 =>
      rfl
  | case2 s =>
      rw [stacked, written_cons, written_nil, List.append_nil, List.map_singleton,
        Text.unlines_singleton]
  | case3 s next later ih =>
      have hlines : Text.unlines ((s :: next :: later).map text) =
          s.text ++ '\n' :: Text.unlines ((next :: later).map text) :=
        Text.unlines_cons (by simp) s.text
      rw [stacked, written_cons, written_cons, ih, hlines]
      rfl

theorem isRow_stacked {ss : List Segment} (h : ∀ s ∈ ss, s.IsProper) {rest : Text}
    (hrest : ∀ c ∈ rest.head?, c = '\n') : IsRow rest (stacked ss) := by
  induction ss using stacked.induct with
  | case1 =>
      trivial
  | case2 s =>
      exact ⟨h s (by simp), fun _ _ => hrest, trivial⟩
  | case3 s next later ih =>
      have hfeed : IsProper (.code ['\n']) := by
        rfl
      refine ⟨h s (by simp), ?_, hfeed, ?_, ih fun x hx => h x (by simp [hx])⟩
      · intro t _ c hc
        cases hc
        rfl
      · intro t ht
        cases ht

theorem isBlockText_unlines {ls : List Text} (h : ∀ l ∈ ls, isBlockText l = true) :
    isBlockText (Text.unlines ls) = true := by
  induction ls with
  | nil =>
      rfl
  | cons l rest ih =>
      cases rest with
      | nil =>
          rw [Text.unlines_singleton]
          exact h l (by simp)
      | cons m later =>
          rw [Text.unlines_cons (by simp), isBlockText_append_cons (by decide) (by decide),
            h l (by simp), ih fun x hx => h x (by simp [hx])]
          rfl

/-!
# Comments of a stack
-/

theorem comments_of_isComment {s : Segment} (h : s.isComment = true) (pos : Nat) :
    s.comments pos = [⟨pos, pos + Text.byteLength s.text, s.text⟩] := by
  rw [comments, if_pos h]

theorem found_stacked_cons_cons {s : Segment} (h : s.isComment = true) (next : Segment)
    (later : List Segment) (pos : Nat) :
    found pos (stacked (s :: next :: later)) =
      ⟨pos, pos + Text.byteLength s.text, s.text⟩ ::
        found (pos + Text.byteLength s.text + Text.byteLength ['\n'])
          (stacked (next :: later)) := by
  rw [stacked, found, comments_of_isComment h]
  rfl

theorem map_text_found_stacked {ss : List Segment} (h : ∀ s ∈ ss, s.isComment = true)
    (pos : Nat) : (found pos (stacked ss)).map Comment.text = ss.map text := by
  induction ss using stacked.induct generalizing pos with
  | case1 =>
      rfl
  | case2 s =>
      rw [stacked, found, comments_of_isComment (h s (by simp))]
      rfl
  | case3 s next later ih =>
      rw [found_stacked_cons_cons (h s (by simp)), List.map_cons, List.map_cons,
        ih fun x hx => h x (by simp [hx])]

theorem found_stacked_ne_nil {ss : List Segment} (h : ∀ s ∈ ss, s.isComment = true)
    (hne : ss ≠ []) (pos : Nat) : found pos (stacked ss) ≠ [] := by
  intro hnil
  have htext := map_text_found_stacked h pos
  rw [hnil] at htext
  exact hne (List.map_eq_nil_iff.mp htext.symm)

theorem start_of_head?_found_stacked {ss : List Segment} (h : ∀ s ∈ ss, s.isComment = true)
    {pos : Nat} : ∀ c ∈ (found pos (stacked ss)).head?, c.start = pos := by
  intro c hc
  cases ss with
  | nil =>
      cases hc
  | cons s later =>
      have hs : s.isComment = true := h s (by simp)
      cases later with
      | nil =>
          rw [stacked, found, comments_of_isComment hs] at hc
          cases hc
          rfl
      | cons next others =>
          rw [found_stacked_cons_cons hs] at hc
          cases hc
          rfl

theorem stop_of_getLast?_found_stacked {ss : List Segment} (h : ∀ s ∈ ss, s.isComment = true)
    {pos : Nat} :
    ∀ c ∈ (found pos (stacked ss)).getLast?,
      c.stop = pos + Text.byteLength (written (stacked ss)) := by
  induction ss using stacked.induct generalizing pos with
  | case1 =>
      intro c hc
      cases hc
  | case2 s =>
      intro c hc
      rw [stacked, found, comments_of_isComment (h s (by simp))] at hc
      cases hc
      rw [stacked, written_cons, written_nil, List.append_nil]
      rfl
  | case3 s next later ih =>
      intro c hc
      have hlater : ∀ x ∈ next :: later, x.isComment = true := fun x hx => h x (by simp [hx])
      have hne := found_stacked_ne_nil hlater (by simp)
        (pos + Text.byteLength s.text + Text.byteLength ['\n'])
      rw [found_stacked_cons_cons (h s (by simp)), List.getLast?_cons_of_ne_nil hne] at hc
      rw [ih hlater c hc, stacked, written_cons, written_cons, Text.byteLength_append,
        Text.byteLength_append, Nat.add_assoc, Nat.add_assoc]
      rfl

theorem isChain_found_stacked {ss : List Segment} (h : ∀ s ∈ ss, s.isComment = true)
    (front back : Text) :
    (found (Text.byteLength front) (stacked ss)).IsChain fun x y =>
      Comment.adjoins (front ++ (written (stacked ss) ++ back)) x y = true := by
  induction ss using stacked.induct generalizing front with
  | case1 =>
      exact List.isChain_nil
  | case2 s =>
      rw [stacked, found, comments_of_isComment (h s (by simp))]
      exact List.isChain_singleton _
  | case3 s next later ih =>
      have hlater : ∀ x ∈ next :: later, x.isComment = true := fun x hx => h x (by simp [hx])
      have hsource : front ++ (written (stacked (s :: next :: later)) ++ back) =
          (front ++ s.text) ++ (['\n'] ++ (written (stacked (next :: later)) ++ back)) := by
        simp [stacked, written_cons, text]
      have hplace : Text.byteLength front + Text.byteLength s.text + Text.byteLength ['\n'] =
          Text.byteLength (front ++ s.text ++ ['\n']) := by
        simp only [Text.byteLength_append]
      have hrest := ih hlater (front ++ s.text ++ ['\n'])
      rw [found_stacked_cons_cons (h s (by simp)), hsource, List.isChain_cons]
      constructor
      · intro c hc
        have hstart := start_of_head?_found_stacked hlater c hc
        rw [Comment.adjoins_of_gap ['\n'] _ (by simp) (by simpa using hstart)]
        decide
      · rw [hplace]
        simpa using hrest

end Segment
end EndpointDocs
