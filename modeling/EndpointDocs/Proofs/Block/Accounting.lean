import EndpointDocs.Proofs.Block.Outcomes
import EndpointDocs.Proofs.Block.PlainMarker
import EndpointDocs.Proofs.Section.Kinds
import Mathlib.Data.List.Forall2

/-!
# Every marker is accounted for

A group of comments is what comes before its first marker, followed by its blocks; each block is a
comment with a marker and the comments up to the next one.  In a lenient reading every block comes
to one of three things: it is empty and noted as such, it is malformed and noted as such, or it
documents one endpoint, with a note when the documentation is not complete.  So the markers are the
endpoints found and the blocks left out, counted together.
-/

namespace EndpointDocs

def Remark.isEmptyBlock : Remark → Bool
  | emptyBlock => true
  | _ => false

def Remark.isSkippedBlock : Remark → Bool
  | skippedBlock _ => true
  | _ => false

namespace Block

/-!
# Blocks of a group
-/

/-- A group of comments cut into blocks: no comment before the first block has a marker, and in
each block the first comment has one and no other. -/
def Cuts (group : List Text) (blocks : List (List Text)) : Prop :=
  ∃ front, group = front ++ blocks.flatten ∧ (∀ raw ∈ front, isMarked raw = false) ∧
    ∀ block ∈ blocks, ∃ raw rest, block = raw :: rest ∧ isMarked raw = true ∧
      ∀ other ∈ rest, isMarked other = false

theorem ofGroup_dropWhile (group : List Text) :
    ofGroup (group.dropWhile fun raw => !isMarked raw) = ofGroup group := by
  induction group with
  | nil =>
      rfl
  | cons raw rest ih =>
      cases hraw : isMarked raw with
      | true =>
          simp [hraw]
      | false =>
          simpa [ofGroup, hraw] using ih

theorem takeWhile_append_flatten_ofGroup (group : List Text) :
    (group.takeWhile fun raw => !isMarked raw) ++ (ofGroup group).flatten = group := by
  induction group with
  | nil =>
      rfl
  | cons raw rest ih =>
      cases hraw : isMarked raw with
      | true =>
          simp [ofGroup, hraw, ih]
      | false =>
          simp [ofGroup, hraw, ih]

theorem cuts_ofGroup (group : List Text) : Cuts group (ofGroup group) := by
  refine ⟨group.takeWhile fun raw => !isMarked raw,
    (takeWhile_append_flatten_ofGroup group).symm, ?_, ?_⟩
  · intro raw hraw
    simpa using List.mem_takeWhile_imp hraw
  · induction group with
    | nil =>
        intro block hblock
        cases hblock
    | cons raw rest ih =>
        intro block hblock
        cases hraw : isMarked raw with
        | true =>
            rw [ofGroup, if_pos hraw] at hblock
            rcases List.mem_cons.mp hblock with hfirst | hlater
            · refine ⟨raw, _, hfirst, hraw, ?_⟩
              intro other hother
              simpa using List.mem_takeWhile_imp hother
            · exact ih block hlater
        | false =>
            rw [ofGroup, hraw] at hblock
            exact ih block hblock

theorem Cuts.countP_isMarked {group : List Text} {blocks : List (List Text)}
    (h : Cuts group blocks) : group.countP isMarked = blocks.length := by
  rcases h with ⟨front, hgroup, hfront, hblocks⟩
  have hzero : front.countP isMarked = 0 := by
    rw [List.countP_eq_zero]
    intro raw hraw
    simp [hfront raw hraw]
  rw [hgroup, List.countP_append, hzero, Nat.zero_add]
  clear hgroup
  induction blocks with
  | nil =>
      rfl
  | cons block later ih =>
      rcases hblocks block (by simp) with ⟨raw, rest, hblock, hraw, hrest⟩
      have hone : block.countP isMarked = 1 := by
        have hnone : rest.countP isMarked = 0 := by
          rw [List.countP_eq_zero]
          intro other hother
          simp [hrest other hother]
        rw [hblock, List.countP_cons, hnone, hraw]
        rfl
      have hlater := ih fun b hb => hblocks b (by simp [hb])
      rw [List.flatten_cons, List.countP_append, hone, hlater, List.length_cons, Nat.add_comm]

/-!
# What a block comes to
-/

/-- The notes and endpoints with which a lenient reading accounts for a block. -/
inductive Accounted (block : List Text) : List Note → List Endpoint → Prop where
  | empty {m : Marker} :
      Marker.read? (Comment.plainText block) = some m →
      Text.allBlank m.body = true →
      Accounted block [⟨m.name, .emptyBlock⟩] []
  | skipped {m : Marker} {error : SectionError} :
      Marker.read? (Comment.plainText block) = some m →
      Text.allBlank m.body = false →
      Endpoint.ofBody m.name m.body = .error error →
      Accounted block [⟨m.name, .skippedBlock error⟩] []
  | complete {m : Marker} {e : Endpoint} :
      Marker.read? (Comment.plainText block) = some m →
      Text.allBlank m.body = false →
      Endpoint.ofBody m.name m.body = .ok e →
      e.name = m.name →
      e.problem? = none →
      Accounted block [] [e]
  | incomplete {m : Marker} {e : Endpoint} {problem : Problem} :
      Marker.read? (Comment.plainText block) = some m →
      Text.allBlank m.body = false →
      Endpoint.ofBody m.name m.body = .ok e →
      e.name = m.name →
      e.problem? = some problem →
      Accounted block [⟨m.name, .incomplete problem⟩] [e]

theorem accounted_of_marked {raw : Text} (h : isMarked raw = true) (rest : List Text) :
    Accounted (raw :: rest) (outcome (raw :: rest)).notes (outcome (raw :: rest)).endpoints := by
  rcases Option.isSome_iff_exists.mp h with ⟨m, hm⟩
  rcases Marker.read?_plainText hm rest with ⟨body, hplain⟩
  cases hblank : Text.allBlank body with
  | true =>
      have houtcome : outcome (raw :: rest) = .empty (Marker.plainName m.name) := by
        simp [outcome, hplain, hblank]
      rw [houtcome]
      exact Accounted.empty hplain hblank
  | false =>
      cases hbody : Endpoint.ofBody (Marker.plainName m.name) body with
      | error error =>
          have houtcome : outcome (raw :: rest) =
              .malformed (Marker.plainName m.name) error := by
            simp [outcome, hplain, hblank, hbody]
          rw [houtcome]
          exact Accounted.skipped hplain hblank hbody
      | ok e =>
          have houtcome : outcome (raw :: rest) = .documented e := by
            simp [outcome, hplain, hblank, hbody]
          have hname : e.name = Marker.plainName m.name := Endpoint.name_ofBody hbody
          rw [houtcome, Outcome.notes, Outcome.endpoints]
          cases hproblem : e.problem? with
          | none =>
              exact Accounted.complete hplain hblank hbody hname hproblem
          | some problem =>
              rw [hname]
              exact Accounted.incomplete hplain hblank hbody hname hproblem

/-- Every block is one endpoint, or one note on an empty block, or one on a malformed block. -/
theorem Accounted.length_eq {block : List Text} {notes : List Note} {es : List Endpoint}
    (h : Accounted block notes es) :
    es.length + (notes.countP fun n => n.remark.isEmptyBlock) +
      (notes.countP fun n => n.remark.isSkippedBlock) = 1 := by
  cases h <;> rfl

theorem length_eq_of_accounted {blocks : List (List Text)} {notes : List Text → List Note}
    {es : List Text → List Endpoint}
    (h : ∀ block ∈ blocks, Accounted block (notes block) (es block)) :
    blocks.length = (blocks.flatMap es).length +
      ((blocks.flatMap notes).countP fun n => n.remark.isEmptyBlock) +
      ((blocks.flatMap notes).countP fun n => n.remark.isSkippedBlock) := by
  induction blocks with
  | nil =>
      rfl
  | cons block later ih =>
      have hblock := (h block (by simp)).length_eq
      have hlater := ih fun b hb => h b (by simp [hb])
      simp only [List.length_cons, List.flatMap_cons, List.length_append, List.countP_append]
      omega

theorem countP_isMarked_flatten {groups : List (List Text)} {blocks : List (List (List Text))}
    (h : List.Forall₂ Cuts groups blocks) :
    groups.flatten.countP isMarked = blocks.flatten.length := by
  induction h with
  | nil =>
      rfl
  | cons hcuts _ ih =>
      rw [List.flatten_cons, List.flatten_cons, List.countP_append, List.length_append, ih,
        hcuts.countP_isMarked]

/-- Neither the comments before the first marker of a group nor a group without a marker belong to
a block. -/
theorem flatMap_ofGroup_dropWhile (groups : List (List Text)) :
    ((groups.map fun group => group.dropWhile fun raw => !isMarked raw).filter
      fun group => !group.isEmpty).flatMap ofGroup = groups.flatMap ofGroup := by
  induction groups with
  | nil =>
      rfl
  | cons group rest ih =>
      have hgroup := ofGroup_dropWhile group
      rw [List.map_cons, List.flatMap_cons, ← hgroup]
      cases hdrop : group.dropWhile fun raw => !isMarked raw with
      | nil =>
          exact ih
      | cons raw later =>
          rw [List.filter_cons_of_pos (by rfl), List.flatMap_cons, ih]

end Block

namespace Reading

theorem lenient_reading_accounts_for_markers (groups : List (List Text)) :
    ∃ (blocks : List (List (List Text))) (accounts : List (List Note × List Endpoint)),
      List.Forall₂ Block.Cuts groups blocks ∧
      List.Forall₂ (fun block account => Block.Accounted block account.1 account.2)
        blocks.flatten accounts ∧
      ofGroups false groups =
        ⟨accounts.flatMap Prod.fst, .ok (accounts.flatMap Prod.snd)⟩ ∧
      groups.flatten.countP Block.isMarked =
        (accounts.flatMap Prod.snd).length +
          ((accounts.flatMap Prod.fst).countP fun n => n.remark.isEmptyBlock) +
          ((accounts.flatMap Prod.fst).countP fun n => n.remark.isSkippedBlock) ∧
      ofGroups false groups =
        ofGroups false
          ((groups.map fun group => group.dropWhile fun raw => !Block.isMarked raw).filter
            fun group => !group.isEmpty) := by
  let blocks := groups.map Block.ofGroup
  let account := fun block : List Text =>
    ((Block.outcome block).notes, (Block.outcome block).endpoints)
  have hcuts : List.Forall₂ Block.Cuts groups blocks := by
    rw [List.forall₂_map_right_iff, List.forall₂_same]
    exact fun group _ => Block.cuts_ofGroup group
  have haccounted : ∀ block ∈ blocks.flatten,
      Block.Accounted block (account block).1 (account block).2 := by
    intro block hblock
    rw [← List.flatMap_def, List.mem_flatMap] at hblock
    rcases hblock with ⟨group, -, hmem⟩
    rcases Block.cuts_ofGroup group with ⟨-, -, -, hblocks⟩
    rcases hblocks block hmem with ⟨raw, rest, hcons, hraw, -⟩
    rw [hcons]
    exact Block.accounted_of_marked hraw rest
  refine ⟨blocks, blocks.flatten.map account, hcuts, ?_, ?_, ?_, ?_⟩
  · rw [List.forall₂_map_right_iff, List.forall₂_same]
    exact haccounted
  · rw [ofGroups, ofOutcomes_lenient, List.flatMap_map, List.flatMap_map, List.flatMap_map,
      List.flatMap_map, List.flatMap_def (f := Block.ofGroup)]
  · rw [Block.countP_isMarked_flatten hcuts, List.flatMap_map, List.flatMap_map]
    exact Block.length_eq_of_accounted haccounted
  · rw [ofGroups, ofGroups, Block.flatMap_ofGroup_dropWhile]

end Reading
end EndpointDocs
