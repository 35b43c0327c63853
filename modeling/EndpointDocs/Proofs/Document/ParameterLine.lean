import EndpointDocs.Proofs.Document.Json
import EndpointDocs.Proofs.Document.Shown
import EndpointDocs.Proofs.Section.WellFormed

/-!
# Parameters on one line

The line about a parameter is its name, then `required` and the type in parentheses, then the
description behind a colon.  A name holds no space and a type no parenthesis, so the line tells its
three parts apart.

## The word in front of the type

Inside the parentheses only a space stands between `required` and the type, and the type itself may
begin with that word.  So a required parameter has the same line as one that is not required and has
the word in its type.  No other two parameters have the same line.
-/

namespace EndpointDocs

/-- The parameter that is not required, with the word in front of the type. -/
def Parameter.withWordInType (p : Parameter) : Parameter :=
  { p with required := false, type := "required ".toList ++ p.type }

/-- Whether a parameter is required and has a type, and the other one has the word in its type
instead. -/
def Parameter.IsShownAs (p q : Parameter) : Prop :=
  p.required = true ∧ p.type ≠ [] ∧ q = p.withWordInType

namespace Markdown

/-!
# Parts of the line
-/

/-- What stands between the parentheses. -/
def attributeText (p : Parameter) : Text :=
  Text.unwords (attributes p)

def inParentheses (t : Text) : Text :=
  if t.isEmpty then [] else ' ' :: '(' :: (t ++ [')'])

def behindColon (t : Text) : Text :=
  if t.isEmpty then [] else ' ' :: ':' :: ' ' :: t

theorem attributeText_of_required {p : Parameter} (h : p.required = true) :
    attributeText p =
      "required".toList ++ if p.type.isEmpty then [] else ' ' :: p.type := by
  cases htype : p.type with
  | nil =>
      simp [attributeText, attributes, h, htype]
  | cons c rest =>
      simp [attributeText, attributes, h, htype, Text.unwords]

theorem attributeText_of_not_required {p : Parameter} (h : p.required = false) :
    attributeText p = p.type := by
  cases htype : p.type with
  | nil =>
      simp [attributeText, attributes, h, htype, Text.unwords]
  | cons c rest =>
      simp [attributeText, attributes, h, htype]

theorem parameterLine_eq (p : Parameter) :
    parameterLine p = p.name ++ (inParentheses (attributeText p) ++ behindColon p.description) := by
  have hparentheses : inParentheses (attributeText p) =
      if (attributes p).isEmpty then []
      else " (".toList ++ Text.unwords (attributes p) ++ [')'] := by
    cases hrequired : p.required <;> cases htype : p.type <;>
      simp [inParentheses, attributeText, attributes, hrequired, htype, Text.unwords]
  rw [hparentheses, parameterLine, List.append_assoc]
  rfl

/-!
# Telling the parts apart

A space ends the name, and the character behind the space tells parentheses from a colon.
-/

theorem takeWhile_append_of_stop {t u : Text} {stop : Char} (ht : stop ∉ t)
    (hu : ∀ c ∈ u.head?, c = stop) : (t ++ u).takeWhile (· != stop) = t := by
  have hpass : ∀ c ∈ t, (c != stop) = true := by
    intro c hc
    exact bne_iff_ne.mpr fun heq => ht (heq ▸ hc)
  have hstop : u.takeWhile (· != stop) = [] := by
    cases u with
    | nil =>
        rfl
    | cons c later =>
        rw [List.takeWhile_cons_of_neg (by simp [hu c rfl])]
  rw [List.takeWhile_append_of_pos hpass, hstop, List.append_nil]

theorem append_inj_of_stop {t u r s : Text} {stop : Char} (ht : stop ∉ t) (hu : stop ∉ u)
    (hr : ∀ c ∈ r.head?, c = stop) (hs : ∀ c ∈ s.head?, c = stop) (h : t ++ r = u ++ s) :
    t = u ∧ r = s := by
  have htu : t = u := by
    rw [← takeWhile_append_of_stop ht hr, h, takeWhile_append_of_stop hu hs]
  subst htu
  exact ⟨rfl, List.append_cancel_left h⟩

theorem eq_space_of_mem_head?_parts {t u : Text} :
    ∀ c ∈ (inParentheses t ++ behindColon u).head?, c = ' ' := by
  cases t <;> cases u <;> simp [inParentheses, behindColon, eq_comm]

theorem parts_append_inj {t u d e : Text} (ht : ')' ∉ t) (hu : ')' ∉ u)
    (h : inParentheses t ++ behindColon d = inParentheses u ++ behindColon e) : t = u ∧ d = e := by
  have hcolon : ∀ {d e}, behindColon d = behindColon e → d = e := by
    intro d e h
    cases d <;> cases e <;> simp_all [behindColon]
  cases t with
  | nil =>
      cases u with
      | nil =>
          exact ⟨rfl, hcolon h⟩
      | cons x xs =>
          cases d <;> simp [inParentheses, behindColon] at h
  | cons y ys =>
      cases u with
      | nil =>
          cases e <;> simp [inParentheses, behindColon] at h
      | cons x xs =>
          have hclosed : (y :: ys) ++ ')' :: behindColon d = (x :: xs) ++ ')' :: behindColon e := by
            simpa [inParentheses] using h
          rcases Html.append_cons_inj_of_not_mem ht hu hclosed with ⟨htu, hde⟩
          exact ⟨htu, hcolon hde⟩

/-!
# Parameters with the same line
-/

section

variable {p q : Parameter}

theorem space_not_mem_name (hp : p.signature.IsWritable) : ' ' ∉ p.name := by
  intro hmem
  exact absurd (hp.name_chars ' ' hmem) (by decide)

theorem parenthesis_not_mem_attributeText (hp : p.signature.IsWritable) :
    ')' ∉ attributeText p := by
  have htype : ')' ∉ p.type := by
    intro hmem
    exact absurd (hp.type_chars ')' hmem) (by decide)
  cases hrequired : p.required with
  | false =>
      rwa [attributeText_of_not_required hrequired]
  | true =>
      rw [attributeText_of_required hrequired]
      cases hempty : p.type.isEmpty with
      | true =>
          rw [if_pos rfl]
          decide
      | false =>
          simpa using htype

theorem isShownAs_of_attributeText_eq (hq : q.signature.IsWritable) (hrequired : p.required = true)
    (hnot : q.required = false) (hname : p.name = q.name)
    (hdescription : p.description = q.description) (h : attributeText p = attributeText q) :
    p.IsShownAs q := by
  rw [attributeText_of_required hrequired, attributeText_of_not_required hnot] at h
  cases htype : p.type with
  | nil =>
      -- A type is never just the word, since the reader takes the word first.
      rw [htype] at h
      exact absurd h.symm (hq.type_ne_required hnot)
  | cons c rest =>
      refine ⟨hrequired, by simp [htype], ?_⟩
      rw [htype] at h
      cases q
      simp_all [Parameter.withWordInType]

theorem type_eq_of_attributeText_eq (hrequired : p.required = q.required)
    (h : attributeText p = attributeText q) : p.type = q.type := by
  cases hp : p.required with
  | false =>
      rwa [attributeText_of_not_required hp,
        attributeText_of_not_required (hrequired.symm.trans hp)] at h
  | true =>
      rw [attributeText_of_required hp, attributeText_of_required (hrequired.symm.trans hp)] at h
      have hbehind := List.append_cancel_left h
      cases htype : p.type <;> cases htype' : q.type <;> simp_all

theorem eq_or_isShownAs_of_parameterLine_eq (hp : p.signature.IsWritable)
    (hq : q.signature.IsWritable) (h : parameterLine p = parameterLine q) :
    p = q ∨ p.IsShownAs q ∨ q.IsShownAs p := by
  rw [parameterLine_eq, parameterLine_eq] at h
  rcases append_inj_of_stop (space_not_mem_name hp) (space_not_mem_name hq)
    eq_space_of_mem_head?_parts eq_space_of_mem_head?_parts h with ⟨hname, hparts⟩
  rcases parts_append_inj (parenthesis_not_mem_attributeText hp)
    (parenthesis_not_mem_attributeText hq) hparts with ⟨hattributes, hdescription⟩
  by_cases hrequired : p.required = q.required
  · left
    have htype := type_eq_of_attributeText_eq hrequired hattributes
    cases p
    cases q
    simp_all
  · right
    cases hp' : p.required with
    | true =>
        left
        have hnot : q.required = false := by
          simpa [hp'] using hrequired
        exact isShownAs_of_attributeText_eq hq hp' hnot hname hdescription hattributes
    | false =>
        right
        have hyes : q.required = true := by
          simpa [hp'] using hrequired
        exact isShownAs_of_attributeText_eq hp hyes hp' hname.symm hdescription.symm
          hattributes.symm

theorem parameterLine_eq_of_isShownAs (h : p.IsShownAs q) : parameterLine p = parameterLine q := by
  rcases h with ⟨hrequired, htype, rfl⟩
  have hattributes : attributeText p = attributeText p.withWordInType := by
    rw [attributeText_of_required hrequired, attributeText_of_not_required rfl,
      if_neg (by simpa using htype)]
    rfl
  rw [parameterLine_eq, parameterLine_eq, hattributes]
  rfl

end

/-- Two parameters that documentation gives have the same line exactly if they are equal or one has
the word in its type that the other has as its mark, and on a page no other lines look the same.  As
values they are always told apart. -/
theorem parameterLine_eq_iff {ls ms : List Text} {p q : Parameter}
    (hp : Section.parameter? ls = some p) (hq : Section.parameter? ms = some q) :
    (parameterLine p = parameterLine q ↔ p = q ∨ p.IsShownAs q ∨ q.IsShownAs p) ∧
      ((Html.Piece.text (parameterLine p)).written = (Html.Piece.text (parameterLine q)).written ↔
        parameterLine p = parameterLine q) ∧
      (p.toValue = q.toValue ↔ p = q) := by
  have hwritable := Section.isWritable_of_parameter? hp
  have hwritable' := Section.isWritable_of_parameter? hq
  refine ⟨⟨eq_or_isShownAs_of_parameterLine_eq hwritable hwritable', ?_⟩, ?_, ?_⟩
  · rintro (rfl | hshown | hshown)
    · rfl
    · exact parameterLine_eq_of_isShownAs hshown
    · exact (parameterLine_eq_of_isShownAs hshown).symm
  · exact ⟨Html.escaped_injective, fun h => by rw [h]⟩
  · constructor
    · intro h
      have hread := congrArg Parameter.ofValue? h
      rwa [Parameter.ofValue?_toValue, Parameter.ofValue?_toValue, Option.some.injEq] at hread
    · rintro rfl
      rfl

theorem parameterLine_eq_iff_header :
    Section.parameter? ["Parameter id, required, header".toList] =
        some ⟨"id".toList, true, "header".toList, []⟩ ∧
      Section.parameter? ["Parameter id, header".toList] =
        some ⟨"id".toList, false, "header".toList, []⟩ ∧
      parameterLine ⟨"id".toList, true, "header".toList, []⟩ ≠
        parameterLine ⟨"id".toList, false, "header".toList, []⟩ := by
  have hp : Section.parameter? ["Parameter id, required, header".toList] =
      some ⟨"id".toList, true, "header".toList, []⟩ := by
    decide +kernel
  have hq : Section.parameter? ["Parameter id, header".toList] =
      some ⟨"id".toList, false, "header".toList, []⟩ := by
    decide +kernel
  refine ⟨hp, hq, ?_⟩
  intro h
  rcases (parameterLine_eq_iff hp hq).left.mp h with heq | ⟨-, -, heq⟩ | ⟨hrequired, -⟩
  · exact absurd heq (by decide)
  · exact absurd heq (by decide)
  · cases hrequired

/-- The line does not always tell `required` and the type: a signature may have the word as a part
of its own or at the beginning of its type. -/
theorem parameterLine_not_injective :
    ¬ ∀ (ls ms : List Text) (p q : Parameter), (∀ l ∈ ls, '\n' ∉ l) → (∀ l ∈ ms, '\n' ∉ l) →
      Section.parameter? ls = some p → Section.parameter? ms = some q →
      parameterLine p = parameterLine q → p = q := by
  intro h
  have heq := h ["Parameter id, required, header".toList] ["Parameter id, required header".toList]
    ⟨"id".toList, true, "header".toList, []⟩ ⟨"id".toList, false, "required header".toList, []⟩
    (by decide) (by decide) (by decide +kernel) (by decide +kernel) (by decide +kernel)
  exact absurd heq (by decide)

end Markdown
end EndpointDocs
