import EndpointDocs.Proofs.Block.Outcomes

/-!
# Strict and lenient reading

A strict reading does what the lenient one does up to the first endpoint whose documentation is not
complete.  If there is none, the two are equal.  If there is one, the strict reading names it and
what it lacks, and has taken just the notes that the lenient reading takes before the note on it.
-/

namespace EndpointDocs
namespace Reading

/-- The blocks before and behind the one that documents an endpoint, given those before and behind
the endpoint. -/
private theorem exists_documented_of_endpoints {os : List Block.Outcome}
    {before later : List Endpoint} {e : Endpoint}
    (h : os.flatMap Block.Outcome.endpoints = before ++ e :: later) :
    ∃ front back, os = front ++ .documented e :: back ∧
      front.flatMap Block.Outcome.endpoints = before := by
  induction os generalizing before with
  | nil =>
      simp at h
  | cons o rest ih =>
      rw [List.flatMap_cons] at h
      cases o with
      | documented x =>
          rw [Block.Outcome.endpoints, List.singleton_append] at h
          cases before with
          | nil =>
              injection h with hx _
              exact ⟨[], rest, by rw [hx, List.nil_append], rfl⟩
          | cons y before' =>
              injection h with hx hrest
              rcases ih hrest with ⟨front, back, hsplit, hfront⟩
              refine ⟨.documented x :: front, back, by rw [hsplit, List.cons_append], ?_⟩
              rw [List.flatMap_cons, hfront, hx]
              rfl
      | unmarked =>
          rcases ih h with ⟨front, back, hsplit, hfront⟩
          exact ⟨.unmarked :: front, back, by rw [hsplit, List.cons_append], hfront⟩
      | empty name =>
          rcases ih h with ⟨front, back, hsplit, hfront⟩
          exact ⟨.empty name :: front, back, by rw [hsplit, List.cons_append], hfront⟩
      | malformed name error =>
          rcases ih h with ⟨front, back, hsplit, hfront⟩
          exact ⟨.malformed name error :: front, back, by rw [hsplit, List.cons_append], hfront⟩

private theorem rejection?_eq_none_of_endpoints {os : List Block.Outcome}
    (h : ∀ e ∈ os.flatMap Block.Outcome.endpoints, e.problem? = none) :
    ∀ o ∈ os, o.rejection? = none := by
  intro o ho
  cases o with
  | documented e =>
      have he : e.problem? = none :=
        h e (List.mem_flatMap.mpr ⟨.documented e, ho, by simp [Block.Outcome.endpoints]⟩)
      simp [Block.Outcome.rejection?, he]
  | unmarked => rfl
  | empty name => rfl
  | malformed name error => rfl

theorem strict_reading_agrees (groups : List (List Text)) :
    ∃ es notes,
      ofGroups false groups = ⟨notes, .ok es⟩ ∧
      ((∀ e ∈ es, e.problem? = none) → ofGroups true groups = ⟨notes, .ok es⟩) ∧
      ∀ before e later problem, es = before ++ e :: later →
        (∀ x ∈ before, x.problem? = none) → e.problem? = some problem →
        ∃ earlier others,
          notes = earlier ++ ⟨e.name, .incomplete problem⟩ :: others ∧
          (∀ n ∈ earlier, n.remark.isIncomplete = false) ∧
          ofGroups true groups = ⟨earlier, .error ⟨e.name, problem⟩⟩ := by
  let os := (groups.flatMap Block.ofGroup).map Block.outcome
  refine ⟨os.flatMap Block.Outcome.endpoints, os.flatMap Block.Outcome.notes,
    ofOutcomes_lenient os, ?_, ?_⟩
  · intro hall
    exact ofOutcomes_of_kept fun _ => rejection?_eq_none_of_endpoints hall
  · intro before e later problem hes hbefore hproblem
    rcases exists_documented_of_endpoints hes with ⟨front, back, hsplit, hfront⟩
    have hkept : ∀ o ∈ front, o.rejection? = none := by
      apply rejection?_eq_none_of_endpoints
      rw [hfront]
      exact hbefore
    have hrejected : (Block.Outcome.documented e).rejection? = some ⟨e.name, problem⟩ := by
      simp [Block.Outcome.rejection?, hproblem]
    refine ⟨front.flatMap Block.Outcome.notes, back.flatMap Block.Outcome.notes, ?_, ?_, ?_⟩
    · rw [hsplit, List.flatMap_append, List.flatMap_cons,
        Block.Outcome.notes_of_rejection hrejected]
      rfl
    · intro n hn
      rcases List.mem_flatMap.mp hn with ⟨o, ho, hno⟩
      exact Block.Outcome.not_isIncomplete_of_mem_notes (hkept o ho) hno
    · change ofOutcomes true os = _
      rw [hsplit, ofOutcomes_append_of_kept fun _ => hkept,
        ofOutcomes_cons_of_rejected hrejected]
      simp [after, Except.map]

end Reading
end EndpointDocs
