import EndpointDocs.Block.Reading

/-!
# What a block adds to a reading

Each block adds notes and at most one endpoint, and in a strict reading it may end the reading.  A
reading is put together from these, block by block, so its notes and endpoints are those of the
blocks in order.
-/

namespace EndpointDocs

def Remark.isIncomplete : Remark → Bool
  | incomplete _ => true
  | _ => false

namespace Block
namespace Outcome

/-- The endpoint that a block adds to a lenient reading, if it adds one. -/
def endpoints : Outcome → List Endpoint
  | documented e => [e]
  | _ => []

/-- The notes that a block adds to a lenient reading. -/
def notes : Outcome → List Note
  | unmarked => []
  | empty name => [⟨name, .emptyBlock⟩]
  | malformed name error => [⟨name, .skippedBlock error⟩]
  | documented e => e.problem?.toList.map fun problem => ⟨e.name, .incomplete problem⟩

/-- What a strict reading says when it ends at this block, if it does. -/
def rejection? : Outcome → Option Rejection
  | documented e => e.problem?.map fun problem => ⟨e.name, problem⟩
  | _ => none

theorem notes_of_rejection {o : Outcome} {r : Rejection} (h : o.rejection? = some r) :
    o.notes = [⟨r.name, .incomplete r.problem⟩] := by
  cases o with
  | documented e =>
      rcases Option.map_eq_some_iff.mp h with ⟨problem, hproblem, hr⟩
      subst hr
      simp [notes, hproblem]
  | unmarked => cases h
  | empty name => cases h
  | malformed name error => cases h

theorem not_isIncomplete_of_mem_notes {o : Outcome} (h : o.rejection? = none) {n : Note}
    (hn : n ∈ o.notes) : n.remark.isIncomplete = false := by
  cases o with
  | documented e =>
      have hnone : e.problem? = none := Option.map_eq_none_iff.mp h
      simp [notes, hnone] at hn
  | unmarked => cases hn
  | empty name =>
      rw [notes, List.mem_singleton] at hn
      rw [hn]
      rfl
  | malformed name error =>
      rw [notes, List.mem_singleton] at hn
      rw [hn]
      rfl

theorem eq_documented_of_mem {o : Outcome} {e : Endpoint} (h : e ∈ o.endpoints) :
    o = .documented e := by
  cases o with
  | documented endpoint =>
      rw [endpoints, List.mem_singleton] at h
      rw [h]
  | unmarked => cases h
  | empty name => cases h
  | malformed name error => cases h

end Outcome
end Block

namespace Reading

/-- A reading with notes before those it takes and endpoints before those it finds. -/
def after (notes : List Note) (endpoints : List Endpoint) (r : Reading) : Reading :=
  ⟨notes ++ r.notes, r.result.map (endpoints ++ ·)⟩

theorem after_nil (r : Reading) : r.after [] [] = r := by
  rcases r with ⟨notes, result⟩
  cases result <;> rfl

theorem after_after (notes notes' : List Note) (es es' : List Endpoint) (r : Reading) :
    (r.after notes' es').after notes es = r.after (notes ++ notes') (es ++ es') := by
  rcases r with ⟨later, result⟩
  cases result <;> simp [after, Except.map]

theorem exists_result_of_after {notes : List Note} {es fs : List Endpoint} {r : Reading}
    (h : (r.after notes es).result = .ok fs) : ∃ gs, r.result = .ok gs ∧ fs = es ++ gs := by
  rcases r with ⟨later, result⟩
  cases result with
  | error rejection =>
      cases h
  | ok gs =>
      injection h with h
      exact ⟨gs, rfl, h.symm⟩

theorem withNote_eq_after (n : Note) (r : Reading) : r.withNote n = r.after [n] [] := by
  rcases r with ⟨notes, result⟩
  cases result <;> rfl

theorem withEndpoint_eq_after (e : Endpoint) (r : Reading) :
    r.withEndpoint e = r.after [] [e] := by
  rcases r with ⟨notes, result⟩
  cases result <;> rfl

/-!
# One block

The block that comes first adds what it adds, unless the reading is strict and ends there.
-/

theorem ofOutcomes_cons_of_kept {strict : Bool} {o : Block.Outcome}
    (h : strict = true → o.rejection? = none) (rest : List Block.Outcome) :
    ofOutcomes strict (o :: rest) = (ofOutcomes strict rest).after o.notes o.endpoints := by
  cases o with
  | unmarked =>
      exact (after_nil _).symm
  | empty name =>
      exact withNote_eq_after _ _
  | malformed name error =>
      exact withNote_eq_after _ _
  | documented e =>
      cases hproblem : e.problem? with
      | none =>
          simp [ofOutcomes, hproblem, withEndpoint_eq_after, Block.Outcome.notes,
            Block.Outcome.endpoints]
      | some problem =>
          have hstrict : strict = false := by
            cases strict with
            | false => rfl
            | true => simp [Block.Outcome.rejection?, hproblem] at h
          simp [ofOutcomes, hproblem, hstrict, withNote_eq_after, withEndpoint_eq_after,
            after_after, Block.Outcome.notes, Block.Outcome.endpoints]

theorem ofOutcomes_cons_of_rejected {o : Block.Outcome} {r : Rejection}
    (h : o.rejection? = some r) (rest : List Block.Outcome) :
    ofOutcomes true (o :: rest) = ⟨[], .error r⟩ := by
  cases o with
  | documented e =>
      rcases Option.map_eq_some_iff.mp h with ⟨problem, hproblem, hr⟩
      subst hr
      simp [ofOutcomes, hproblem]
  | unmarked => cases h
  | empty name => cases h
  | malformed name error => cases h

/-!
# All blocks

A lenient reading holds what the blocks add, in order.  A strict reading does so up to the first
block that it rejects.
-/

theorem ofOutcomes_append_of_kept {strict : Bool} {before : List Block.Outcome}
    (h : strict = true → ∀ o ∈ before, o.rejection? = none) (later : List Block.Outcome) :
    ofOutcomes strict (before ++ later) =
      (ofOutcomes strict later).after (before.flatMap Block.Outcome.notes)
        (before.flatMap Block.Outcome.endpoints) := by
  induction before with
  | nil =>
      exact (after_nil _).symm
  | cons o rest ih =>
      have ho : strict = true → o.rejection? = none := fun hs => h hs o (by simp)
      have hrest : strict = true → ∀ x ∈ rest, x.rejection? = none :=
        fun hs x hx => h hs x (by simp [hx])
      rw [List.cons_append, ofOutcomes_cons_of_kept ho, ih hrest, after_after]
      rfl

theorem ofOutcomes_of_kept {strict : Bool} {os : List Block.Outcome}
    (h : strict = true → ∀ o ∈ os, o.rejection? = none) :
    ofOutcomes strict os =
      ⟨os.flatMap Block.Outcome.notes, .ok (os.flatMap Block.Outcome.endpoints)⟩ := by
  have hall := ofOutcomes_append_of_kept h []
  rw [List.append_nil] at hall
  rw [hall]
  simp [ofOutcomes, after, Except.map]

theorem ofOutcomes_lenient (os : List Block.Outcome) :
    ofOutcomes false os =
      ⟨os.flatMap Block.Outcome.notes, .ok (os.flatMap Block.Outcome.endpoints)⟩ :=
  ofOutcomes_of_kept (by simp)

/-- A reading that does not end early finds the endpoints of all blocks. -/
theorem endpoints_of_result {strict : Bool} {os : List Block.Outcome} {es : List Endpoint}
    (h : (ofOutcomes strict os).result = .ok es) : es = os.flatMap Block.Outcome.endpoints := by
  induction os generalizing es with
  | nil =>
      injection h with h
      exact h.symm
  | cons o rest ih =>
      by_cases hkept : strict = true → o.rejection? = none
      · rw [ofOutcomes_cons_of_kept hkept] at h
        rcases exists_result_of_after h with ⟨gs, hrest, hes⟩
        rw [hes, ih hrest, List.flatMap_cons]
      · rcases Classical.not_imp.mp hkept with ⟨hstrict, hrejected⟩
        rcases Option.ne_none_iff_exists'.mp hrejected with ⟨r, hr⟩
        rw [hstrict, ofOutcomes_cons_of_rejected hr] at h
        cases h

end Reading
end EndpointDocs
