import EndpointDocs.Block.Marker
import EndpointDocs.Proofs.Comment.NormalLines
import EndpointDocs.Proofs.Text.Lines

/-!
# What a marker is made of

A text begins with a marker when it is made of leading characters, `apidoc(`, a name and a closing
parenthesis, whatever follows.  The opening word has no leading character in it, and the name runs
up to the first closing parenthesis, so a text has only one such reading.
-/

namespace EndpointDocs
namespace Marker

/-- The word and the parenthesis that open a marker. -/
def opening : Text :=
  "apidoc(".toList

theorem opening_ne_nil : opening ≠ [] := by
  decide

theorem dropWhile_isLeading_append {lead rest : Text} (hlead : ∀ c ∈ lead, isLeading c = true) :
    (lead ++ (opening ++ rest)).dropWhile isLeading = opening ++ rest := by
  rw [List.dropWhile_append_of_pos hlead]
  rfl

theorem fromName?_append {name : Text} (hne : name ≠ []) (hname : ')' ∉ name) (rest : Text) :
    fromName? (name ++ ')' :: rest) = some ⟨name, withoutColon rest⟩ := by
  have hall : ∀ c ∈ name, (c != ')') = true := by
    intro c hc
    simp only [bne_iff_ne, ne_eq]
    intro heq
    exact hname (heq ▸ hc)
  have htake : (name ++ ')' :: rest).takeWhile (· != ')') = name := by
    rw [List.takeWhile_append_of_pos hall]
    simp
  have hdrop : (name ++ ')' :: rest).dropWhile (· != ')') = ')' :: rest := by
    rw [List.dropWhile_append_of_pos hall]
    simp
  rw [fromName?, htake, hdrop]
  cases name with
  | nil => exact absurd rfl hne
  | cons c later => rfl

theorem isSome_fromName?_iff {t : Text} :
    (fromName? t).isSome = true ↔ t.head? ≠ some ')' ∧ ')' ∈ t := by
  cases t with
  | nil =>
      decide
  | cons c rest =>
      by_cases hc : c = ')'
      · simp [fromName?, hc]
      · have hname : (c :: rest).takeWhile (· != ')') = c :: rest.takeWhile (· != ')') := by
          simp [hc]
        have hbehind : (c :: rest).dropWhile (· != ')') = rest.dropWhile (· != ')') := by
          simp [hc]
        rw [fromName?, hname, hbehind]
        cases hdrop : rest.dropWhile (· != ')') with
        | nil =>
            have hnone : ')' ∉ rest := by
              intro hmem
              simpa using List.dropWhile_eq_nil_iff.mp hdrop ')' hmem
            simp [hnone, Ne.symm hc]
        | cons d later =>
            have hsome : ')' ∈ rest := by
              by_contra hnone
              have hall : rest.dropWhile (· != ')') = [] := by
                rw [List.dropWhile_eq_nil_iff]
                intro e he
                have hne : e ≠ ')' := fun heq => hnone (heq ▸ he)
                simpa using hne
              rw [hdrop] at hall
              cases hall
            simp [hsome, hc]

theorem read?_eq_some_iff {t : Text} {m : Marker} :
    read? t = some m ↔
      ∃ lead rest, t = lead ++ (opening ++ (m.name ++ ')' :: rest)) ∧
        (∀ c ∈ lead, isLeading c = true) ∧ m.name ≠ [] ∧ ')' ∉ m.name ∧
        m.body = withoutColon rest := by
  constructor
  · intro h
    rw [read?, Option.bind_eq_some_iff] at h
    rcases h with ⟨after, hafter, hname⟩
    have hopen : t.dropWhile isLeading = opening ++ after := Text.after?_eq_some_iff.mp hafter
    rw [fromName?] at hname
    cases htake : after.takeWhile (· != ')') with
    | nil =>
        simp [htake] at hname
    | cons c name =>
        cases hdrop : after.dropWhile (· != ')') with
        | nil =>
            simp [htake, hdrop] at hname
        | cons d rest =>
            simp only [htake, hdrop, Option.some.injEq] at hname
            have hd : d = ')' := by
              have hne : after.dropWhile (· != ')') ≠ [] := by
                rw [hdrop]
                simp
              have hhead := List.head_dropWhile_not (· != ')') hne
              simpa [hdrop] using hhead
            rw [hd] at hdrop
            have hafterEq : after = (c :: name) ++ ')' :: rest := by
              rw [← htake, ← hdrop, List.takeWhile_append_dropWhile]
            refine ⟨t.takeWhile isLeading, rest, ?_, ?_, ?_, ?_, ?_⟩
            · rw [← hname, ← hafterEq, ← hopen, List.takeWhile_append_dropWhile]
            · intro x hx
              exact List.mem_takeWhile_imp hx
            · rw [← hname]
              simp
            · intro hmem
              rw [← hname] at hmem
              have hmem' : ')' ∈ after.takeWhile (· != ')') := by
                rw [htake]
                exact hmem
              simpa using List.mem_takeWhile_imp hmem'
            · rw [← hname]
  · rintro ⟨lead, rest, ht, hlead, hne, hname, hbody⟩
    have hopen : Text.after? "apidoc(".toList (t.dropWhile isLeading) =
        some (m.name ++ ')' :: rest) := by
      rw [ht, dropWhile_isLeading_append hlead]
      exact Text.after?_append opening _
    rw [read?, hopen, Option.bind_some, fromName?_append hne hname, ← hbody]

/-- A character behind a text does not belong to the marker that begins it, unless it is the closing
parenthesis. -/
theorem exists_eq_of_read?_append {c : Char} (hc : c ≠ ')') {t : Text} {m : Marker}
    (h : read? (t ++ [c]) = some m) :
    ∃ lead rest, t = lead ++ (opening ++ (m.name ++ ')' :: rest)) ∧
      (∀ d ∈ lead, isLeading d = true) ∧ m.name ≠ [] ∧ ')' ∉ m.name := by
  rcases read?_eq_some_iff.mp h with ⟨lead, rest, ht, hlead, hne, hname, -⟩
  rcases List.eq_nil_or_concat rest with hrest | ⟨more, last, hrest⟩
  · have hend := congrArg List.getLast? ht
    simp [hrest, hc] at hend
  · have hdrop := congrArg List.dropLast ht
    have hlast : lead ++ (opening ++ (m.name ++ ')' :: rest)) =
        lead ++ (opening ++ (m.name ++ ')' :: more)) ++ [last] := by
      simp [hrest]
    rw [hlast, List.dropLast_concat, List.dropLast_concat] at hdrop
    exact ⟨lead, more, hdrop, hlead, hne, hname⟩

theorem exists_colon (t : Text) : ∃ colon, t = colon ++ withoutColon t := by
  unfold withoutColon
  split
  · next rest =>
      exact ⟨[':'], rfl⟩
  · exact ⟨[], rfl⟩

/-- What follows a marker is an end of the text. -/
theorem exists_append_body {t : Text} {m : Marker} (h : read? t = some m) :
    ∃ front, t = front ++ m.body := by
  rcases read?_eq_some_iff.mp h with ⟨lead, rest, ht, -, -, -, hbody⟩
  rcases exists_colon rest with ⟨colon, hcolon⟩
  refine ⟨lead ++ (opening ++ (m.name ++ ')' :: colon)), ?_⟩
  rw [hbody, ht]
  conv_lhs => rw [hcolon]
  simp

end Marker
end EndpointDocs
