import EndpointDocs.Endpoint.Validation
import EndpointDocs.Proofs.Text.Ends

/-!
# The first problem of an endpoint

An endpoint lacks the verb, or else the URL, or else the documentation of a parameter that its URL
mentions.  Of several such parameters the one in the leftmost segment is reported.

## Repairs

More documentation never makes a complete endpoint incomplete.  Once the reported parameter has been
documented, what is reported next stands further right in the URL.
-/

namespace EndpointDocs

/-!
# Segments of a URL
-/

theorem segmentParameter?_eq_some_iff {segment name : Text} :
    segmentParameter? segment = some name ↔ segment = ':' :: name := by
  rw [segmentParameter?, Text.after?_eq_some_iff]
  rfl

theorem mem_urlParameters_iff {template name : Text} :
    name ∈ urlParameters template ↔ ':' :: name ∈ List.splitOn '/' template := by
  simp only [urlParameters, List.mem_filterMap, segmentParameter?_eq_some_iff, exists_eq_right]

theorem find?_urlParameters_eq_some_iff {p : Text → Bool} {template name : Text} :
    (urlParameters template).find? p = some name ↔
      ∃ before after, List.splitOn '/' template = before ++ (':' :: name) :: after ∧
        p name = true ∧ ∀ other, ':' :: other ∈ before → p other = false := by
  rw [urlParameters, List.find?_filterMap, Option.bind_eq_some_iff]
  simp only [List.find?_eq_some_iff_append, segmentParameter?_eq_some_iff]
  constructor
  · intro h
    rcases h with ⟨segment, ⟨hname, before, after, hsplit, hbefore⟩, rfl⟩
    refine ⟨before, after, hsplit, ?_, ?_⟩
    · simpa [segmentParameter?_eq_some_iff.mpr rfl] using hname
    · intro other hother
      simpa [segmentParameter?_eq_some_iff.mpr rfl] using hbefore _ hother
  · intro h
    rcases h with ⟨before, after, hsplit, hname, hbefore⟩
    refine ⟨':' :: name, ⟨?_, before, after, hsplit, ?_⟩, rfl⟩
    · simpa [segmentParameter?_eq_some_iff.mpr rfl] using hname
    · intro segment hsegment
      cases hparameter : segmentParameter? segment with
      | none =>
          rfl
      | some other =>
          rw [segmentParameter?_eq_some_iff.mp hparameter] at hsegment
          simpa using hbefore other hsegment

namespace Endpoint

variable {e : Endpoint}

theorem documents_eq_true_iff {name : Text} :
    e.documents name = true ↔ ∃ p ∈ e.urlParams, p.name = name := by
  simp [documents]

/-- The leftmost segment of the URL that stands for a parameter without documentation: the segments
before it, the name, and the segments behind it. -/
structure LacksFirst (e : Endpoint) (before : List Text) (name : Text) (after : List Text) :
    Prop where
  split : List.splitOn '/' e.urlTemplate = before ++ (':' :: name) :: after
  undocumented : ¬ ∃ p ∈ e.urlParams, p.name = name
  documented : ∀ other, ':' :: other ∈ before → ∃ p ∈ e.urlParams, p.name = other

/-!
# Which problem is reported
-/

theorem problem?_of_request (hmethod : e.method ≠ []) (hurl : e.urlTemplate ≠ []) :
    e.problem? = ((urlParameters e.urlTemplate).find? fun name => !e.documents name).map
      .missingUrlParameter := by
  have hmethod' : e.method.isEmpty = false := by
    simpa using hmethod
  have hurl' : e.urlTemplate.isEmpty = false := by
    simpa using hurl
  simp only [problem?, hmethod', hurl', Bool.false_eq_true, if_false]

theorem problem?_eq_missingMethod_iff : e.problem? = some .missingMethod ↔ e.method = [] := by
  constructor
  · intro h
    by_contra hmethod
    by_cases hurl : e.urlTemplate = []
    · simp [problem?, hmethod, hurl] at h
    · simp [problem?_of_request hmethod hurl] at h
  · intro hmethod
    simp [problem?, hmethod]

theorem problem?_eq_missingUrl_iff :
    e.problem? = some .missingUrl ↔ e.method ≠ [] ∧ e.urlTemplate = [] := by
  constructor
  · intro h
    have hmethod : e.method ≠ [] := by
      intro hnil
      rw [problem?_eq_missingMethod_iff.mpr hnil] at h
      cases h
    refine ⟨hmethod, ?_⟩
    by_contra hurl
    simp [problem?_of_request hmethod hurl] at h
  · intro h
    simp [problem?, h.left, h.right]

theorem find?_undocumented_eq_some_iff {name : Text} :
    ((urlParameters e.urlTemplate).find? fun name => !e.documents name) = some name ↔
      ∃ before after, e.LacksFirst before name after := by
  rw [find?_urlParameters_eq_some_iff]
  constructor
  · intro h
    rcases h with ⟨before, after, hsplit, hname, hbefore⟩
    refine ⟨before, after, hsplit, ?_, ?_⟩
    · rw [← documents_eq_true_iff]
      simpa using hname
    · intro other hother
      rw [← documents_eq_true_iff]
      simpa using hbefore other hother
  · intro h
    rcases h with ⟨before, after, hlacks⟩
    refine ⟨before, after, hlacks.split, ?_, ?_⟩
    · simpa [← documents_eq_true_iff] using hlacks.undocumented
    · intro other hother
      rw [documents_eq_true_iff.mpr (hlacks.documented other hother), Bool.not_true]

theorem request_of_problem?_ne (hmethod : e.problem? ≠ some .missingMethod)
    (hurl : e.problem? ≠ some .missingUrl) : e.method ≠ [] ∧ e.urlTemplate ≠ [] := by
  have hverb : e.method ≠ [] := fun hnil => hmethod (problem?_eq_missingMethod_iff.mpr hnil)
  exact ⟨hverb, fun hnil => hurl (problem?_eq_missingUrl_iff.mpr ⟨hverb, hnil⟩)⟩

theorem problem?_eq_missingUrlParameter_iff {name : Text} :
    e.problem? = some (.missingUrlParameter name) ↔
      e.method ≠ [] ∧ e.urlTemplate ≠ [] ∧ ∃ before after, e.LacksFirst before name after := by
  constructor
  · intro h
    have hrequest : e.method ≠ [] ∧ e.urlTemplate ≠ [] :=
      request_of_problem?_ne (by simp [h]) (by simp [h])
    rcases hrequest with ⟨hmethod, hurl⟩
    rw [problem?_of_request hmethod hurl, Option.map_eq_some_iff] at h
    rcases h with ⟨found, hfound, heq⟩
    injection heq with heq
    rw [heq] at hfound
    exact ⟨hmethod, hurl, find?_undocumented_eq_some_iff.mp hfound⟩
  · intro h
    rcases h with ⟨hmethod, hurl, hlacks⟩
    rw [problem?_of_request hmethod hurl, find?_undocumented_eq_some_iff.mpr hlacks]
    rfl

theorem problem?_eq_none_iff :
    e.problem? = none ↔
      e.method ≠ [] ∧ e.urlTemplate ≠ [] ∧
        ∀ name, ':' :: name ∈ List.splitOn '/' e.urlTemplate →
          ∃ p ∈ e.urlParams, p.name = name := by
  constructor
  · intro h
    have hrequest : e.method ≠ [] ∧ e.urlTemplate ≠ [] :=
      request_of_problem?_ne (by simp [h]) (by simp [h])
    rcases hrequest with ⟨hmethod, hurl⟩
    rw [problem?_of_request hmethod hurl, Option.map_eq_none_iff, List.find?_eq_none] at h
    refine ⟨hmethod, hurl, ?_⟩
    intro name hname
    rw [← documents_eq_true_iff]
    simpa using h name (mem_urlParameters_iff.mpr hname)
  · intro h
    rcases h with ⟨hmethod, hurl, hall⟩
    rw [problem?_of_request hmethod hurl, Option.map_eq_none_iff, List.find?_eq_none]
    intro name hname
    rw [documents_eq_true_iff.mpr (hall name (mem_urlParameters_iff.mp hname))]
    exact Bool.false_ne_true

theorem problem?_ne_none_of_undocumented {name : Text}
    (hname : name ∈ urlParameters e.urlTemplate) (h : e.documents name = false) :
    e.problem? ≠ none := by
  intro hnone
  have hdocumented := (problem?_eq_none_iff.mp hnone).right.right name
    (mem_urlParameters_iff.mp hname)
  rw [documents_eq_true_iff.mpr hdocumented] at h
  cases h

/-!
# More documentation
-/

theorem problem?_eq_none_of_subset (h : e.problem? = none) {params : List Parameter}
    (hparams : e.urlParams ⊆ params) : ({ e with urlParams := params }).problem? = none := by
  rw [problem?_eq_none_iff] at h ⊢
  rcases h with ⟨hmethod, hurl, hall⟩
  refine ⟨hmethod, hurl, ?_⟩
  intro name hname
  rcases hall name hname with ⟨p, hp, hpname⟩
  exact ⟨p, hparams hp, hpname⟩

/-- What is lacking when the first lacking parameter has been documented stands behind it. -/
theorem LacksFirst.of_repaired {before after before' after' : List Text} {name name' : Text}
    {p : Parameter} (hp : p.name = name) (h : e.LacksFirst before name after)
    (h' : ({ e with urlParams := e.urlParams ++ [p] }).LacksFirst before' name' after') :
    name' ≠ name ∧
      ∃ middle, before' = before ++ (':' :: name) :: middle ∧
        after = middle ++ (':' :: name') :: after' := by
  have hne : name' ≠ name := by
    intro heq
    exact h'.undocumented ⟨p, by simp, hp.trans heq.symm⟩
  have hbefore : ':' :: name' ∉ before := by
    intro hmem
    rcases h.documented name' hmem with ⟨q, hq, hqname⟩
    exact h'.undocumented ⟨q, List.mem_append_left [p] hq, hqname⟩
  refine ⟨hne, ?_⟩
  have hsplit : before ++ (':' :: name) :: after = before' ++ (':' :: name') :: after' :=
    h.split.symm.trans h'.split
  rcases List.append_eq_append_iff.mp hsplit with
    ⟨middle, hfront, hback⟩ | ⟨middle, hfront, hback⟩
  · cases middle with
    | nil =>
        injection hback with hsegment _
        injection hsegment with _ hname
        exact absurd hname.symm hne
    | cons segment rest =>
        injection hback with hsegment hrest
        exact ⟨rest, by rw [hfront, hsegment], hrest⟩
  · cases middle with
    | nil =>
        injection hback with hsegment _
        injection hsegment with _ hname
        exact absurd hname hne
    | cons segment rest =>
        injection hback with hsegment _
        rw [hfront, hsegment] at hbefore
        simp at hbefore

theorem problem?_of_repaired {name : Text} {p : Parameter} {problem : Problem}
    (h : e.problem? = some (.missingUrlParameter name))
    (h' : ({ e with urlParams := e.urlParams ++ [p] }).problem? = some problem) :
    ∃ next before after, problem = .missingUrlParameter next ∧
      ({ e with urlParams := e.urlParams ++ [p] }).LacksFirst before next after := by
  rcases problem?_eq_missingUrlParameter_iff.mp h with ⟨hmethod, hurl, -⟩
  cases problem with
  | missingMethod =>
      exact absurd (problem?_eq_missingMethod_iff.mp h') hmethod
  | missingUrl =>
      exact absurd (problem?_eq_missingUrl_iff.mp h').right hurl
  | missingUrlParameter next =>
      rcases problem?_eq_missingUrlParameter_iff.mp h' with ⟨-, -, before, after, hlacks⟩
      exact ⟨next, before, after, rfl, hlacks⟩

/-- An endpoint is complete if nothing is lacking, and else its first problem is reported.  It stays
complete with more parameters, and a parameter added for a reported one moves the report to the
right. -/
theorem first_problem_is_reported (e : Endpoint) :
    (e.problem? = none ↔
      e.method ≠ [] ∧ e.urlTemplate ≠ [] ∧
        ∀ name, ':' :: name ∈ List.splitOn '/' e.urlTemplate →
          ∃ p ∈ e.urlParams, p.name = name) ∧
    (e.problem? = some .missingMethod ↔ e.method = []) ∧
    (e.problem? = some .missingUrl ↔ e.method ≠ [] ∧ e.urlTemplate = []) ∧
    (∀ name, e.problem? = some (.missingUrlParameter name) ↔
      e.method ≠ [] ∧ e.urlTemplate ≠ [] ∧ ∃ before after, e.LacksFirst before name after) ∧
    (e.problem? = none → ∀ params, e.urlParams ⊆ params →
      ({ e with urlParams := params }).problem? = none) ∧
    ∀ name p, e.problem? = some (.missingUrlParameter name) → p.name = name →
      ∀ problem, ({ e with urlParams := e.urlParams ++ [p] }).problem? = some problem →
        ∃ before middle next later,
          problem = .missingUrlParameter next ∧ next ≠ name ∧
          e.LacksFirst before name (middle ++ (':' :: next) :: later) ∧
          ({ e with urlParams := e.urlParams ++ [p] }).LacksFirst
            (before ++ (':' :: name) :: middle) next later := by
  refine ⟨problem?_eq_none_iff, problem?_eq_missingMethod_iff, problem?_eq_missingUrl_iff,
    fun _ => problem?_eq_missingUrlParameter_iff, ?_, ?_⟩
  · intro h params hparams
    exact problem?_eq_none_of_subset h hparams
  · intro name p h hp problem hproblem
    rcases problem?_eq_missingUrlParameter_iff.mp h with ⟨-, -, before, after, hlacks⟩
    rcases problem?_of_repaired h hproblem with ⟨next, before', later, hnext, hlater⟩
    rcases hlacks.of_repaired hp hlater with ⟨hne, middle, hbefore, hafter⟩
    rw [hafter] at hlacks
    rw [hbefore] at hlater
    exact ⟨before, middle, next, later, hnext, hne, hlacks, hlater⟩

/-- A segment that is only a colon stands for a parameter without a name, and a second colon belongs
to the name. -/
example :
    let e : Endpoint := { method := "GET".toList, urlTemplate := "/:id/:/::id/:id".toList }
    e.problem? = some (.missingUrlParameter "id".toList) ∧
      ({ e with urlParams := [{ name := "id".toList }] }).problem? =
        some (.missingUrlParameter []) ∧
      ({ e with urlParams := [{ name := "id".toList }, {}] }).problem? =
        some (.missingUrlParameter ":id".toList) := by
  decide

end Endpoint
end EndpointDocs
