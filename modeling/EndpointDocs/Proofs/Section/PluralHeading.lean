import EndpointDocs.Proofs.Section.Keyword
import EndpointDocs.Proofs.Section.StatusCode

/-!
# Plural headings

A heading with an `s` behind it opens the section of the heading, but only the heading itself is
taken away from the line.  The `s` is then the first line of the content: it begins a description or
an example call, it is the name of a parameter, and no response has it as its status code.

## Singular and plural

With the heading alone, the section has one character less that is not blank.  So it never says the
same, except that a response is malformed in the same way if its code is an `s` as well.
-/

namespace EndpointDocs

/-!
# Characters that are not blank
-/

namespace Text

/-- How many characters of some lines are not blank. -/
def countFilled (ls : List Text) : Nat :=
  ls.flatten.countP fun c => !isBlank c

theorem countFilled_cons (l : Text) (ls : List Text) :
    countFilled (l :: ls) = (l.countP fun c => !isBlank c) + countFilled ls := by
  rw [countFilled, List.flatten_cons, List.countP_append, countFilled]

theorem countFilled_append (front back : List Text) :
    countFilled (front ++ back) = countFilled front + countFilled back := by
  rw [countFilled, List.flatten_append, List.countP_append, countFilled, countFilled]

theorem countFilled_of_blank {ls : List Text} (h : ∀ l ∈ ls, allBlank l = true) :
    countFilled ls = 0 := by
  rw [countFilled, List.countP_eq_zero]
  intro c hc
  rcases List.mem_flatten.mp hc with ⟨l, hl, hcl⟩
  simpa using List.all_eq_true.mp (h l hl) c hcl

theorem countFilled_dropEndWhile (ls : List Text) :
    countFilled (dropEndWhile allBlank ls) = countFilled ls := by
  rcases exists_eq_dropEndWhile_append allBlank ls with ⟨back, hls, hback⟩
  have hcount := congrArg countFilled hls
  rw [countFilled_append, countFilled_of_blank hback, Nat.add_zero] at hcount
  exact hcount.symm

theorem countFilled_trimLines (ls : List Text) : countFilled (trimLines ls) = countFilled ls := by
  have hfront : countFilled (ls.takeWhile allBlank) = 0 :=
    countFilled_of_blank fun l hl => List.mem_takeWhile_imp hl
  rw [trimLines, countFilled_dropEndWhile]
  conv_rhs => rw [← List.takeWhile_append_dropWhile (p := allBlank) (l := ls),
    countFilled_append, hfront, Nat.zero_add]

theorem countP_intercalate {q : Char → Bool} {c : Char} (h : q c = false) (ls : List Text) :
    (List.intercalate [c] ls).countP q = ls.flatten.countP q := by
  induction ls with
  | nil =>
      rfl
  | cons l rest ih =>
      cases rest with
      | nil =>
          simp
      | cons m later =>
          have hflatten : (l :: m :: later).flatten = l ++ (m :: later).flatten := rfl
          rw [List.intercalate_cons_cons, List.countP_append, List.countP_append, ih,
            List.countP_singleton, h, hflatten, List.countP_append]
          rfl

theorem countP_unlines (ls : List Text) :
    ((unlines ls).countP fun c => !isBlank c) = countFilled ls :=
  countP_intercalate (by decide) ls

theorem countP_unwords (ls : List Text) :
    ((unwords ls).countP fun c => !isBlank c) = countFilled ls :=
  countP_intercalate (by decide) ls

theorem countP_pos_of_allBlank {l : Text} (h : allBlank l = false) :
    0 < l.countP fun c => !isBlank c := by
  rw [allBlank, List.all_eq_false] at h
  rw [List.countP_pos_iff]
  simpa using h

end Text

/-!
# What is left of a plural heading
-/

/-- The heading with an `s` behind it. -/
def Keyword.plural (k : Keyword) : Text :=
  k.heading ++ ['s']

theorem Keyword.ofLine?_plural {k : Keyword} (hk : k ≠ .method) : ofLine? k.plural = some k :=
  ofLine?_heading hk ['s']

namespace Section

theorem content_plural (k : Keyword) (ls : List Text) :
    content k (k.plural :: ls) = ['s'] :: Text.dropEndWhile Text.allBlank ls := by
  have hline : k.withoutHeading k.plural = ['s'] := by
    rw [Keyword.plural, k.withoutHeading_append]
    decide
  rw [content, hline]
  exact Text.dropEndWhile_append_cons (by decide) [] ls

theorem prose_plural_ne (k : Keyword) (ls : List Text) :
    prose k (k.plural :: ls) ≠ prose k (k.heading :: ls) := by
  intro h
  have hcount := congrArg (List.countP fun c => !Text.isBlank c) h
  rw [prose, prose, Text.countP_unlines, Text.countP_unlines, content_plural, content_heading,
    Text.countFilled_cons, Text.countFilled_dropEndWhile, Text.countFilled_trimLines] at hcount
  have hs : (['s'].countP fun c => !Text.isBlank c) = 1 := by
    decide
  omega

theorem parameter?_plural (ls : List Text) :
    parameter? (Keyword.parameter.plural :: ls) =
      some ⟨['s'], false, [], Text.unwords (Text.dropEndWhile Text.allBlank ls)⟩ := by
  have hread : Signature.read? (Text.trim ['s']) = some ⟨['s'], false, []⟩ := by
    decide
  rw [parameter?, content_plural]
  simp only [hread, Option.map_some]

/-- The description of a parameter lacks the characters of the signature. -/
theorem countP_description_lt {ls : List Text} {p : Parameter}
    (h : parameter? (Keyword.parameter.heading :: ls) = some p) :
    (p.description.countP fun c => !Text.isBlank c) < Text.countFilled ls := by
  rw [parameter?, content_heading] at h
  cases hcontent : Text.trimLines ls with
  | nil =>
      simp [hcontent] at h
  | cons line description =>
      simp only [hcontent] at h
      rcases Option.map_eq_some_iff.mp h with ⟨signature, -, hp⟩
      have hline : Text.allBlank line = false :=
        Text.allBlank_head_trimLines ls line (by rw [hcontent]; rfl)
      have hpos := Text.countP_pos_of_allBlank hline
      rw [← hp, ← Text.countFilled_trimLines ls, hcontent, Text.countFilled_cons,
        Text.countP_unwords]
      omega

theorem parameter?_plural_ne (ls : List Text) :
    parameter? (Keyword.parameter.plural :: ls) ≠ parameter? (Keyword.parameter.heading :: ls) := by
  intro h
  rw [parameter?_plural] at h
  have hlt := countP_description_lt h.symm
  rw [Text.countP_unwords, Text.countFilled_dropEndWhile] at hlt
  omega

theorem response_plural (k : Keyword) (ls : List Text) :
    response k (k.plural :: ls) = .error (.invalidStatusCode k ['s']) := by
  have hcode : Text.trim ((content k (k.plural :: ls)).headD []) = ['s'] := by
    rw [content_plural, List.headD_cons]
    decide
  rw [response_eq_error_iff, hcode]
  exact ⟨statusCode?_eq_none_iff.mp (by decide), rfl⟩

end Section

/-!
# Singular and plural
-/

namespace Endpoint

theorem withSection_parameter (e : Endpoint) (ls : List Text) :
    e.withSection .parameter ls =
      .ok { e with urlParams := e.urlParams ++ (Section.parameter? ls).toList } := by
  rw [withSection]
  cases Section.parameter? ls with
  | none =>
      simp
  | some p =>
      rfl

theorem withSection_response_plural {k : Keyword}
    (hk : k = .successResponse ∨ k = .errorResponse) (e : Endpoint) (ls : List Text) :
    e.withSection k (k.plural :: ls) = .error (.invalidStatusCode k ['s']) := by
  rcases hk with hk | hk
  all_goals
    rw [hk, withSection, Section.response_plural]

theorem withSection_plural_eq_iff {k : Keyword} (hk : k ≠ .method) (e : Endpoint)
    (ls : List Text) :
    e.withSection k (k.plural :: ls) = e.withSection k (k.heading :: ls) ↔
      e.withSection k (k.heading :: ls) = .error (.invalidStatusCode k ['s']) := by
  cases k with
  | method =>
      exact absurd rfl hk
  | description =>
      apply iff_of_false
      · intro h
        injection h with h
        exact Section.prose_plural_ne .description ls (congrArg Endpoint.description h)
      · intro h
        cases h
  | notes =>
      apply iff_of_false
      · intro h
        injection h with h
        exact Section.prose_plural_ne .notes ls (congrArg Endpoint.notes h)
      · intro h
        cases h
  | exampleCall =>
      apply iff_of_false
      · intro h
        injection h with h
        have hexamples := List.append_cancel_left (congrArg Endpoint.examples h)
        injection hexamples with hprose _
        exact Section.prose_plural_ne .exampleCall ls hprose
      · intro h
        cases h
  | parameter =>
      rw [withSection_parameter, withSection_parameter, Section.parameter?_plural]
      apply iff_of_false
      · intro h
        injection h with h
        have hparams := List.append_cancel_left (congrArg Endpoint.urlParams h)
        exact Section.parameter?_plural_ne ls
          ((Section.parameter?_plural ls).trans (Option.toList_eq_singleton_iff.mp hparams.symm).symm)
      · intro h
        cases h
  | successResponse =>
      rw [withSection_response_plural (Or.inl rfl)]
      exact eq_comm
  | errorResponse =>
      rw [withSection_response_plural (Or.inr rfl)]
      exact eq_comm

/-- A plural heading opens the section of the heading, but means the same only where the section
with the heading is a malformed response with an `s` for its code. -/
theorem plural_heading_agrees_iff {k : Keyword} (hk : k ≠ .method) :
    Keyword.ofLine? k.plural = some k ∧
      ∀ (e : Endpoint) (ls : List Text),
        e.withSection k (k.plural :: ls) = e.withSection k (k.heading :: ls) ↔
          e.withSection k (k.heading :: ls) = .error (.invalidStatusCode k ['s']) :=
  ⟨Keyword.ofLine?_plural hk, withSection_plural_eq_iff hk⟩

theorem plural_heading_agrees_iff_errorResponse :
    Keyword.errorResponse ≠ .method ∧
      Keyword.ofLine? "Error Responses".toList = some .errorResponse ∧
      Endpoint.withSection {} .errorResponse ["Error Responses".toList, "404".toList] ≠
        Endpoint.withSection {} .errorResponse ["Error Response".toList, "404".toList] := by
  have hk : Keyword.errorResponse ≠ .method := by
    decide
  rcases plural_heading_agrees_iff hk with ⟨hopens, hagrees⟩
  refine ⟨hk, hopens, fun heq => ?_⟩
  have herror := (hagrees {} ["404".toList]).mp heq
  exact absurd herror (by decide +kernel)

/-- Below a plural heading a parameter gets the name `s`. -/
theorem plural_heading_differs :
    ¬ ∀ k ∈ [Keyword.description, .successResponse, .errorResponse, .exampleCall, .parameter],
      ∀ (e : Endpoint) (ls : List Text),
        e.withSection k (k.plural :: ls) = e.withSection k (k.heading :: ls) := by
  intro h
  have hparameter := h .parameter (by simp) {} ["id, required, string".toList, "The id.".toList]
  exact absurd hparameter (by decide +kernel)

end Endpoint
end EndpointDocs
