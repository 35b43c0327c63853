import EndpointDocs.Proofs.Section.Kinds

/-!
# Requests and the lines they stand in

The request that is found in a line is the leftmost one, and a line without a heading opens a method
section if it has a request.  So the first line of every method section has a request, and the
section sets the verb and the URL of the endpoint.
-/

namespace EndpointDocs
namespace Section

/-- Every method section sets the verb and the URL. -/
theorem exists_request_of_mem_cluster {body : List Text} {s : Section}
    (hs : s ∈ cluster Keyword.ofLine? body) (hmethod : s.keyword = .method) :
    ∃ line r, (s.lines body).head? = some line ∧ RequestLine.IsLeftmost line r ∧
      ∀ e : Endpoint, e.withSection s.keyword (s.lines body) =
        .ok { e with method := r.verb.text, urlTemplate := r.url } := by
  have hpiece : (s.keyword, s.lines body) ∈ pieces Keyword.ofLine? body := by
    rw [← map_cluster]
    exact List.mem_map_of_mem hs
  rcases isPiece_of_mem_pieces hpiece with ⟨line, inner, hlines, hline, -⟩
  change s.lines body = line :: inner at hlines
  rw [hmethod] at hline
  rcases Option.isSome_iff_exists.mp (Keyword.opens_of_ofLine? hline) with ⟨r, hfind⟩
  refine ⟨line, r, ?_, RequestLine.find?_eq_some_iff.mp hfind, ?_⟩
  · rw [hlines, List.head?_cons]
  · intro e
    rw [hmethod, Endpoint.withSection, Endpoint.withRequest, hlines, List.head?_cons,
      Option.bind_some, hfind]

end Section

namespace RequestLine

/-- A search for a request finds the leftmost one.  A line is of the kind of its only heading, in
whatever order headings are tried, or else of the kind of its request.  Every method section sets
the verb and the URL. -/
theorem found_and_classified :
    (∀ line : Text,
      (∀ r, find? line = some r ↔ IsLeftmost line r) ∧
      (find? line = none ↔ ∀ place r, ¬ StandsAt line place r) ∧
      (∀ k k' : Keyword, k ≠ .method → k' ≠ .method → k.heading <+: line → k'.heading <+: line →
        k = k') ∧
      (∀ k, Keyword.ofLine? line = some k ↔ k.IsKindOf line) ∧
      ∀ ks : List Keyword, ks.Perm Keyword.headed →
        (ks ++ [Keyword.method]).find? (fun k => k.opens line) = Keyword.ofLine? line) ∧
    ∀ (body : List Text), ∀ s ∈ Section.cluster Keyword.ofLine? body, s.keyword = .method →
      ∃ line r, (s.lines body).head? = some line ∧ IsLeftmost line r ∧
        ∀ e : Endpoint, e.withSection s.keyword (s.lines body) =
          .ok { e with method := r.verb.text, urlTemplate := r.url } := by
  constructor
  · intro line
    refine ⟨fun r => find?_eq_some_iff, find?_eq_none_iff, ?_, ?_, ?_⟩
    · intro k k' hk hk' h h'
      exact Keyword.eq_of_isPrefix hk hk' h h'
    · intro k
      exact Keyword.ofLine?_eq_some_iff
    · intro ks hks
      exact Keyword.find?_opens_eq_ofLine? hks line
  · intro body s hs hmethod
    exact Section.exists_request_of_mem_cluster hs hmethod

/-- A verb behind a verb, and blanks that cross the end of a line. -/
example :
    find? "GETPUT\n \t/x y \nPOST /z".toList = some ⟨.put, "/x y".toList⟩ := by
  decide +kernel

end RequestLine
end EndpointDocs
