import EndpointDocs.Proofs.Section.RequestLine
import EndpointDocs.Section.Keyword

/-!
# Lines that open sections

No heading begins another heading or a line that starts with a verb, so a line that begins with a
heading opens its section, and a written request line opens a method section.

## Order of the tests

A line has at most one heading.  So it does not matter in which order the headings are tried, as
long as a request is looked for last.
-/

namespace EndpointDocs
namespace Keyword

/-- The kinds of sections that have a heading. -/
def headed : List Keyword :=
  [description, successResponse, errorResponse, exampleCall, parameter, notes]

/-- The kind of section that a line opens: that of the heading it begins with, or else a method
section if a request stands somewhere in it. -/
inductive IsKindOf : Keyword → Text → Prop where
  | heading {k : Keyword} {line : Text} : k ≠ .method → k.heading <+: line → IsKindOf k line
  | request {line : Text} {place : Nat} {r : RequestLine} :
      (∀ k : Keyword, k ≠ .method → ¬ k.heading <+: line) →
      RequestLine.StandsAt line place r → IsKindOf .method line

theorem ofLine?_heading {k : Keyword} (h : k ≠ .method) (rest : Text) :
    ofLine? (k.heading ++ rest) = some k := by
  cases k with
  | method => exact absurd rfl h
  | description | successResponse | errorResponse | exampleCall | parameter | notes => rfl

theorem opens_verb_eq_false {k : Keyword} (h : k ≠ .method) (verb : Verb) (rest : Text) :
    k.opens (verb.text ++ rest) = false := by
  cases k with
  | method => exact absurd rfl h
  | description | successResponse | errorResponse | exampleCall | parameter | notes =>
      cases verb <;> rfl

theorem ofLine?_request (verb : Verb) {url : Text} (hslash : url.head? = some '/')
    (hline : '\n' ∉ url) (htrim : Text.trimEnd url = url) :
    ofLine? (verb.text ++ ' ' :: url) = some .method := by
  have hmethod : method.opens (verb.text ++ ' ' :: url) = true := by
    rw [opens, RequestLine.find?_written verb hslash hline htrim]
    rfl
  have hother : ∀ k : Keyword, k ≠ .method → k.opens (verb.text ++ ' ' :: url) = false :=
    fun k hk => opens_verb_eq_false hk verb _
  rw [ofLine?, all]
  simp [hother, hmethod]

/-!
# The kind of a line
-/

theorem opens_of_ofLine? {k : Keyword} {line : Text} (h : ofLine? line = some k) :
    k.opens line = true := by
  simpa using List.find?_some h

theorem opens_eq_true_iff {k : Keyword} (h : k ≠ .method) {line : Text} :
    k.opens line = true ↔ k.heading <+: line := by
  have hstarts : k.opens line = Text.startsWith k.heading line := by
    cases k with
    | method => exact absurd rfl h
    | description | successResponse | errorResponse | exampleCall | parameter | notes => rfl
  rw [hstarts, Text.startsWith, Option.isSome_iff_exists]
  constructor
  · intro hafter
    rcases hafter with ⟨rest, hrest⟩
    exact ⟨rest, (Text.after?_eq_some_iff.mp hrest).symm⟩
  · intro hheading
    rcases hheading with ⟨rest, hrest⟩
    exact ⟨rest, Text.after?_eq_some_iff.mpr hrest.symm⟩

theorem method_opens_eq_true_iff {line : Text} :
    method.opens line = true ↔ ∃ place r, RequestLine.StandsAt line place r := by
  rw [opens, ← Option.ne_none_iff_isSome, ne_eq, RequestLine.find?_eq_none_iff]
  simp only [not_forall, not_not]

/-- A line has at most one heading. -/
theorem eq_of_isPrefix {k k' : Keyword} (hk : k ≠ .method) (hk' : k' ≠ .method) {line : Text}
    (h : k.heading <+: line) (h' : k'.heading <+: line) : k = k' := by
  rcases h with ⟨rest, hrest⟩
  rcases h' with ⟨rest', hrest'⟩
  have hkind := ofLine?_heading hk rest
  rw [hrest, ← hrest', ofLine?_heading hk' rest'] at hkind
  injection hkind with heq
  exact heq.symm

theorem mem_headed_iff {k : Keyword} : k ∈ headed ↔ k ≠ .method := by
  cases k <;> decide

theorem find?_opens_of_isPrefix {ks : List Keyword} (hks : ∀ k, k ∈ ks ↔ k ≠ .method)
    {k : Keyword} (hk : k ≠ .method) {line : Text} (h : k.heading <+: line) :
    ks.find? (fun k => k.opens line) = some k := by
  cases hfind : ks.find? (fun k => k.opens line) with
  | none =>
      exact absurd ((opens_eq_true_iff hk).mpr h)
        (List.find?_eq_none.mp hfind k ((hks k).mpr hk))
  | some found =>
      have hfound : found ≠ .method := (hks found).mp (List.mem_of_find?_eq_some hfind)
      have hopens : found.opens line = true := by
        simpa using List.find?_some hfind
      rw [eq_of_isPrefix hfound hk ((opens_eq_true_iff hfound).mp hopens) h]

theorem find?_opens_eq_none {ks : List Keyword} (hks : ∀ k, k ∈ ks ↔ k ≠ .method) {line : Text}
    (h : ∀ k : Keyword, k ≠ .method → ¬ k.heading <+: line) :
    ks.find? (fun k => k.opens line) = none := by
  rw [List.find?_eq_none]
  intro k hk hopens
  have hmethod : k ≠ .method := (hks k).mp hk
  exact h k hmethod ((opens_eq_true_iff hmethod).mp hopens)

/-- The headings may be tried in any order. -/
theorem find?_opens_eq_some_iff {ks : List Keyword} (hks : ∀ k, k ∈ ks ↔ k ≠ .method)
    {line : Text} {k : Keyword} :
    (ks ++ [method]).find? (fun k => k.opens line) = some k ↔ k.IsKindOf line := by
  rw [List.find?_append]
  by_cases hheading : ∃ k : Keyword, k ≠ .method ∧ k.heading <+: line
  · rcases hheading with ⟨other, hother, hprefix⟩
    rw [find?_opens_of_isPrefix hks hother hprefix, Option.some_or]
    constructor
    · intro heq
      injection heq with heq
      rw [← heq]
      exact .heading hother hprefix
    · intro hkind
      cases hkind with
      | heading hk h => rw [eq_of_isPrefix hother hk hprefix h]
      | request hnone _ => exact absurd hprefix (hnone other hother)
  · have hnone : ∀ k : Keyword, k ≠ .method → ¬ k.heading <+: line :=
      fun k hk h => hheading ⟨k, hk, h⟩
    rw [find?_opens_eq_none hks hnone, Option.none_or, List.find?_singleton,
      Option.ite_none_right_eq_some, method_opens_eq_true_iff]
    constructor
    · intro h
      rcases h with ⟨⟨place, r, hstands⟩, hk⟩
      injection hk with hk
      rw [← hk]
      exact .request hnone hstands
    · intro hkind
      cases hkind with
      | heading hk h => exact absurd h (hnone k hk)
      | request _ hstands => exact ⟨⟨_, _, hstands⟩, rfl⟩

theorem ofLine?_eq_some_iff {line : Text} {k : Keyword} :
    ofLine? line = some k ↔ k.IsKindOf line := by
  change (headed ++ [method]).find? (fun k => k.opens line) = some k ↔ k.IsKindOf line
  exact find?_opens_eq_some_iff fun _ => mem_headed_iff

theorem find?_opens_eq_ofLine? {ks : List Keyword} (h : ks.Perm headed) (line : Text) :
    (ks ++ [method]).find? (fun k => k.opens line) = ofLine? line := by
  have hks : ∀ k, k ∈ ks ↔ k ≠ .method := by
    intro k
    rw [h.mem_iff]
    exact mem_headed_iff
  apply Option.ext
  intro k
  rw [find?_opens_eq_some_iff hks, ofLine?_eq_some_iff]

end Keyword
end EndpointDocs
