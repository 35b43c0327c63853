import EndpointDocs.Proofs.Numeral.Decimal
import EndpointDocs.Proofs.Section.Content
import EndpointDocs.Proofs.Text.Lines
import EndpointDocs.Section.Fields

/-!
# Status codes

A response section has to begin with a status code: a numeral up to 65535, behind the heading or on
the first line below it that is not blank.  The lines below the code are the content, so a section
that is written with a code gives the code and the lines back.

## Malformed responses

A section that begins with anything else is malformed, and the problem names what stands in the
place of the code.
-/

namespace EndpointDocs

theorem statusCode?_eq_some_iff {t : Text} {code : UInt16} :
    statusCode? t = some code ↔ Numeral.Denotes t code.toNat := by
  rw [statusCode?, Option.map_eq_some_iff]
  constructor
  · intro h
    rcases h with ⟨n, hn, hcode⟩
    rcases Numeral.upTo?_eq_some_iff.mp hn with ⟨hdenotes, hlimit⟩
    rw [← hcode, UInt16.toNat_ofNat_of_lt' (Nat.lt_succ_of_le hlimit)]
    exact hdenotes
  · intro hdenotes
    have hlimit : code.toNat ≤ 65535 := Nat.le_of_lt_succ code.toNat_lt
    exact ⟨code.toNat, Numeral.upTo?_eq_some_iff.mpr ⟨hdenotes, hlimit⟩, UInt16.ofNat_toNat⟩

theorem statusCode?_eq_none_iff {t : Text} :
    statusCode? t = none ↔ ∀ n ≤ 65535, ¬ Numeral.Denotes t n := by
  rw [Option.eq_none_iff_forall_ne_some]
  constructor
  · intro hnone n hlimit hdenotes
    apply hnone (UInt16.ofNat n)
    rw [statusCode?_eq_some_iff, UInt16.toNat_ofNat_of_lt' (Nat.lt_succ_of_le hlimit)]
    exact hdenotes
  · intro hnone code hcode
    exact hnone code.toNat (Nat.le_of_lt_succ code.toNat_lt) (statusCode?_eq_some_iff.mp hcode)

namespace Section

/-!
# Reading responses
-/

theorem response_eq_ok_iff {k : Keyword} {ls : List Text} {r : Response} :
    response k ls = .ok r ↔
      Numeral.Denotes (Text.trim ((content k ls).headD [])) r.code.toNat ∧
        r.content = Text.unlines (content k ls).tail := by
  rw [← statusCode?_eq_some_iff, response]
  cases statusCode? (Text.trim ((content k ls).headD [])) with
  | none =>
      simp
  | some code =>
      cases r
      simp [eq_comm]

theorem response_eq_error_iff {k : Keyword} {ls : List Text} {problem : SectionError} :
    response k ls = .error problem ↔
      (∀ n ≤ 65535, ¬ Numeral.Denotes (Text.trim ((content k ls).headD [])) n) ∧
        problem = .invalidStatusCode k (Text.trim ((content k ls).headD [])) := by
  rw [← statusCode?_eq_none_iff, response]
  cases statusCode? (Text.trim ((content k ls).headD [])) with
  | none =>
      simp [eq_comm]
  | some code =>
      simp

/-- A heading with a status code is read back together with the lines below it.  Blank lines may
stand right behind the code, but not at the end. -/
theorem response_heading_append (k : Keyword) (code : UInt16) {ls : List Text}
    (hlast : ∀ l ∈ ls.getLast?, Text.allBlank l = false) :
    response k ((k.heading ++ ' ' :: Numeral.decimal code.toNat) :: ls) =
      .ok ⟨code, Text.unlines ls⟩ := by
  have hcontent : content k ((k.heading ++ ' ' :: Numeral.decimal code.toNat) :: ls) =
      Numeral.decimal code.toNat :: ls :=
    content_heading_append k (Numeral.allBlank_decimal _) (Numeral.trim_decimal _) hlast
  rw [response_eq_ok_iff, hcontent, List.headD_cons, List.tail_cons, Numeral.trim_decimal]
  exact ⟨Numeral.denotes_decimal _, rfl⟩

/-- A response is read exactly if the text in the place of its code is a numeral up to 65535, and
whatever has been written as a code is read back with the lines below it. -/
theorem response_accepts_numerals (k : Keyword) :
    (∀ ls : List Text,
      let found := Text.trim ((content k ls).headD [])
      (∀ r, response k ls = .ok r ↔
        Numeral.Denotes found r.code.toNat ∧ r.content = Text.unlines (content k ls).tail) ∧
      ∀ problem, response k ls = .error problem ↔
        (∀ n ≤ 65535, ¬ Numeral.Denotes found n) ∧ problem = .invalidStatusCode k found) ∧
    ∀ (code : UInt16) (ls : List Text), (∀ l ∈ ls.getLast?, Text.allBlank l = false) →
      ∃ r, response k ((k.heading ++ ' ' :: Numeral.decimal code.toNat) :: ls) = .ok r ∧
        r.code = code ∧ r.content = Text.unlines ls ∧
        ((∀ l ∈ ls, '\n' ∉ l) → ls ≠ [] → Text.lines r.content = ls) := by
  constructor
  · intro ls
    exact ⟨fun _ => response_eq_ok_iff, fun _ => response_eq_error_iff⟩
  · intro code ls hlast
    refine ⟨⟨code, Text.unlines ls⟩, response_heading_append k code hlast, rfl, rfl, ?_⟩
    intro hlines hne
    exact Text.lines_unlines hlines hne

theorem response_accepts_numerals_notFound :
    response .errorResponse
        ["Error Response".toList, [], " +0404 ".toList, [], "gone".toList, []] =
      .ok ⟨404, "\ngone".toList⟩ ∧
    ∃ r, response .errorResponse ["Error Response 404".toList, [], "gone".toList] = .ok r ∧
      r.code = 404 ∧ Text.lines r.content = [[], "gone".toList] := by
  rcases response_accepts_numerals .errorResponse with ⟨haccepts, hwritten⟩
  have hnumeral : Numeral.Denotes "+0404".toList 404 :=
    ⟨"0404".toList, Or.inr rfl, by decide, List.all_eq_true.mp (by decide), by decide⟩
  have hfound : Text.trim ((content .errorResponse
      ["Error Response".toList, [], " +0404 ".toList, [], "gone".toList, []]).headD []) =
      "+0404".toList := by
    decide +kernel
  constructor
  · apply ((haccepts _).left _).mpr
    rw [hfound]
    exact ⟨hnumeral, by decide +kernel⟩
  · rcases hwritten 404 [[], "gone".toList] (by decide) with ⟨r, hr, hcode, -, hlines⟩
    exact ⟨r, hr, hcode, hlines (by decide) (by decide)⟩

end Section
end EndpointDocs
