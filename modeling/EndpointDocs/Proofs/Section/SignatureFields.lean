import EndpointDocs.Proofs.Section.Signature

/-!
# Signatures as lists of fields

The commas of a signature line divide it into fields.  A line is a signature if and only if its
fields are a name, a name and a type, or a name, `required` and a type, and the fields alone decide
what it says.

## The word in front of the type

`required` may begin a type as well as be a field.  It is a field only where a comma or the end of
the line follows, so the reader, which tries the word first, never has to choose between two lists
of fields.
-/

namespace EndpointDocs
namespace Signature

/-- The texts between the commas of a line, without the blanks at their ends. -/
def fields (t : Text) : List Text :=
  (List.splitOn ',' t).map Text.trim

/-- The lists of fields that make up a signature. -/
def IsSignature : List Text → Prop
  | [name] => IsName name
  | [name, second] => IsName name ∧ IsType second
  | [name, second, third] => IsName name ∧ second = "required".toList ∧ IsType third
  | _ => False

/-- The type among the fields of a signature. -/
def typeField : List Text → Text
  | [_, second] => if second = "required".toList then [] else second
  | [_, _, third] => third
  | _ => []

/-- The parts of a signature are these fields. -/
structure HasFields (s : Signature) (fs : List Text) : Prop where
  name_eq : fs[0]? = some s.name
  required_iff : s.required = true ↔ fs[1]? = some "required".toList
  type_eq : s.type = typeField fs

/-- The signatures that lists of fields spell, one way for each form that a list may have. -/
inductive Spells : List Text → Signature → Prop
  | name {name : Text} : IsName name → Spells [name] ⟨name, false, []⟩
  | required {name : Text} : IsName name → Spells [name, "required".toList] ⟨name, true, []⟩
  | typed {name type : Text} : IsName name → IsType type → type ≠ "required".toList →
      Spells [name, type] ⟨name, false, type⟩
  | requiredTyped {name type : Text} : IsName name → IsType type →
      Spells [name, "required".toList, type] ⟨name, true, type⟩

theorem isType_required : IsType "required".toList := by
  have hall : "required".toList.all isTypeChar = true := by
    decide
  exact ⟨by simp, List.all_eq_true.mp hall⟩

theorem isSignature_iff_exists_spells {fs : List Text} :
    IsSignature fs ↔ ∃ s, Spells fs s := by
  constructor
  · intro h
    unfold IsSignature at h
    split at h
    · exact ⟨_, .name h⟩
    · next name second =>
        by_cases hword : second = "required".toList
        · subst hword
          exact ⟨_, .required h.left⟩
        · exact ⟨_, .typed h.left h.right hword⟩
    · next name second third =>
        rcases h with ⟨hname, rfl, htype⟩
        exact ⟨_, .requiredTyped hname htype⟩
    · exact h.elim
  · rintro ⟨s, h⟩
    cases h with
    | name hname =>
        exact hname
    | required hname =>
        exact ⟨hname, isType_required⟩
    | typed hname htype hword =>
        exact ⟨hname, htype⟩
    | requiredTyped hname htype =>
        exact ⟨hname, rfl, htype⟩

theorem Spells.hasFields {fs : List Text} {s : Signature} (h : Spells fs s) :
    s.HasFields fs := by
  cases h with
  | name hname =>
      exact ⟨rfl, by simp, rfl⟩
  | required hname =>
      exact ⟨rfl, by simp, rfl⟩
  | typed hname htype hword =>
      exact ⟨rfl, by simpa using hword, (if_neg hword).symm⟩
  | requiredTyped hname htype =>
      exact ⟨rfl, by simp, rfl⟩

/-!
# Fields from left to right

The first field of a line is followed by the end of the line or by a comma.  Blanks before and after
the comma belong to no field.
-/

theorem fields_of_not_mem {t : Text} (h : ',' ∉ t) : fields t = [Text.trim t] := by
  rw [fields, List.splitOn_eq_singleton h]
  rfl

theorem fields_append_cons {front : Text} (h : ',' ∉ front) (back : Text) :
    fields (front ++ ',' :: back) = Text.trim front :: fields back := by
  rw [fields, List.splitOn_append_cons_self, List.splitOn_eq_singleton h]
  rfl

theorem fields_ne_nil (t : Text) : fields t ≠ [] := by
  intro h
  exact List.splitOn_ne_nil ',' t (List.map_eq_nil_iff.mp h)

theorem fields_cons_of_blank {c : Char} (h : Text.isBlank c = true) (t : Text) :
    fields (c :: t) = fields t := by
  have hc : ',' ≠ c := by
    rintro rfl
    exact absurd h (by decide)
  by_cases hmem : ',' ∈ t
  · rcases List.eq_append_cons_of_mem hmem with ⟨front, back, rfl, hfront⟩
    have hcons : ',' ∉ c :: front := by
      simp [hc, hfront]
    rw [← List.cons_append, fields_append_cons hcons, fields_append_cons hfront,
      Text.trim_cons_of_blank h]
  · have hcons : ',' ∉ c :: t := by
      simp [hc, hmem]
    rw [fields_of_not_mem hcons, fields_of_not_mem hmem, Text.trim_cons_of_blank h]

theorem fields_trimStart (t : Text) : fields (Text.trimStart t) = fields t := by
  induction t with
  | nil =>
      rfl
  | cons c rest ih =>
      cases hc : Text.isBlank c with
      | true =>
          have hdrop : Text.trimStart (c :: rest) = Text.trimStart rest := by
            simp [Text.trimStart, hc]
          rw [hdrop, ih, fields_cons_of_blank hc]
      | false =>
          rw [Text.trimStart_eq_self (by simp [hc])]

/-- What follows the first field of a line, and the fields in it. -/
inductive Continues : Text → List Text → Prop
  | done : Continues [] []
  | comma {t u : Text} {more : List Text} : afterComma? t = some u → fields u = more →
      Continues t more

theorem Continues.isNameChar_head {t : Text} {more : List Text} (h : Continues t more) :
    ∀ c ∈ t.head?, isNameChar c = false := by
  intro c hc
  cases h with
  | done =>
      cases hc
  | comma hcomma _ =>
      rcases afterComma?_eq_some_iff.mp hcomma with ⟨blanks, later, rfl, hblanks, -⟩
      cases blanks with
      | nil =>
          cases hc
          decide
      | cons b rest =>
          cases hc
          have hblank := hblanks c List.mem_cons_self
          cases hname : isNameChar c with
          | false =>
              rfl
          | true =>
              rw [isBlank_eq_false_of_isNameChar hname] at hblank
              cases hblank

theorem fields_eq_cons_iff {t first : Text} {more : List Text} (ht : Text.trim t = t) :
    fields t = first :: more ↔
      Text.trim first = first ∧ ',' ∉ first ∧ ∃ rest, t = first ++ rest ∧ Continues rest more := by
  constructor
  · intro h
    by_cases hmem : ',' ∈ t
    · rcases List.eq_append_cons_of_mem hmem with ⟨front, back, rfl, hfront⟩
      rw [fields_append_cons hfront] at h
      injection h with hfirst hmore
      -- The line does not begin with a blank, so only blanks at the end of the field are dropped.
      have hstart : Text.trimStart front = front := by
        apply Text.trimStart_eq_self
        intro c hc
        apply (Text.trim_eq_self_iff.mp ht).left
        rw [List.head?_append, Option.mem_def.mp hc]
        rfl
      rcases Text.exists_eq_dropEndWhile_append Text.isBlank front with ⟨blanks, hblanks, hall⟩
      have hkept : Text.dropEndWhile Text.isBlank front = first := by
        rw [← hfirst, Text.trim, hstart]
        rfl
      rw [hkept] at hblanks
      refine ⟨by rw [← hfirst, Text.trim_trim], ?_, blanks ++ ',' :: back, ?_, ?_⟩
      · intro hcomma
        exact hfront (by rw [hblanks]; exact List.mem_append_left _ hcomma)
      · rw [hblanks, List.append_assoc]
      · have hcomma : afterComma? (blanks ++ ',' :: back) = some (Text.trimStart back) :=
          afterComma?_eq_some_iff.mpr ⟨blanks, back, rfl, hall, rfl⟩
        exact .comma hcomma ((fields_trimStart back).trans hmore)
    · rw [fields_of_not_mem hmem, ht] at h
      injection h with hfirst hmore
      rw [← hfirst, ← hmore]
      exact ⟨ht, hmem, [], (List.append_nil t).symm, .done⟩
  · rintro ⟨htrim, hcomma, rest, rfl, hrest⟩
    cases hrest with
    | done =>
        rw [List.append_nil, fields_of_not_mem hcomma, htrim]
    | comma hafter hmore =>
        rcases afterComma?_eq_some_iff.mp hafter with ⟨blanks, later, rfl, hblanks, rfl⟩
        have hfront : ',' ∉ first ++ blanks := by
          rw [List.mem_append]
          rintro (hmem | hmem)
          · exact hcomma hmem
          · exact absurd (hblanks ',' hmem) (by decide)
        rw [← List.append_assoc, fields_append_cons hfront, Text.trim_append_of_blank _ hblanks,
          htrim, ← hmore, fields_trimStart]

theorem Continues.eq_nil {t : Text} (h : Continues t []) : t = [] := by
  cases h with
  | done =>
      rfl
  | comma _ hfields =>
      exact absurd hfields (fields_ne_nil _)

theorem trim_of_afterComma? {first t u : Text} (h : Text.trim (first ++ t) = first ++ t)
    (hcomma : afterComma? t = some u) : Text.trim u = u := by
  rcases suffix_of_afterComma? hcomma with ⟨hsuffix, hstart⟩
  exact Text.trim_of_suffix h (hsuffix.trans (List.suffix_append first t)) hstart

/-!
# Names and types as fields
-/

theorem IsName.trim_eq {t : Text} (h : IsName t) : Text.trim t = t := by
  have hblank : ∀ c ∈ t, Text.isBlank c = false := by
    intro c hc
    exact isBlank_eq_false_of_isNameChar (h.right c hc)
  apply Text.trim_eq_self
  · intro c hc
    exact hblank c (List.mem_of_mem_head? hc)
  · intro c hc
    exact hblank c (List.mem_of_mem_getLast? hc)

theorem IsName.comma_not_mem {t : Text} (h : IsName t) : ',' ∉ t := by
  intro hmem
  exact absurd (h.right ',' hmem) (by decide)

theorem fields_of_isType {t : Text} (htrim : Text.trim t = t) (h : IsType t) : fields t = [t] := by
  rw [fields_of_not_mem h.comma_not_mem, htrim]

/-!
# Reading fields
-/

theorem spells_of_read? {line : Text} {s : Signature} (hline : Text.trim line = line)
    (h : read? line = some s) : Spells (fields line) s := by
  rcases s with ⟨name, required, type⟩
  rcases read?_eq_some_iff.mp h with ⟨t, rfl, hname, -, hparts⟩
  have hfields : ∀ {more}, Continues t more → fields (name ++ t) = name :: more := by
    intro more hmore
    exact (fields_eq_cons_iff hline).mpr ⟨hname.trim_eq, hname.comma_not_mem, t, rfl, hmore⟩
  cases required with
  | false =>
      rcases requiredAndType?_eq_some_false_iff.mp hparts with ⟨htype, hword⟩
      rcases type?_eq_some_iff.mp htype with ⟨rfl, rfl⟩ | ⟨hcomma, hchars⟩
      · rw [hfields .done]
        exact .name hname
      · have htyped := fields_of_isType (trim_of_afterComma? hline hcomma) hchars
        rw [hfields (.comma hcomma htyped)]
        exact .typed hname hchars hword
  | true =>
      rcases requiredAndType?_eq_some_true_iff.mp hparts with ⟨u, hcomma, htype⟩
      have hu := trim_of_afterComma? hline hcomma
      have hword : ∀ {more}, Continues u more →
          fields ("required".toList ++ u) = "required".toList :: more := by
        intro more hmore
        exact (fields_eq_cons_iff hu).mpr ⟨by decide, by decide, u, rfl, hmore⟩
      rcases type?_eq_some_iff.mp htype with ⟨rfl, rfl⟩ | ⟨hagain, hchars⟩
      · rw [hfields (.comma hcomma (hword .done))]
        exact .required hname
      · have htyped := fields_of_isType (trim_of_afterComma? hu hagain) hchars
        rw [hfields (.comma hcomma (hword (.comma hagain htyped)))]
        exact .requiredTyped hname hchars

theorem exists_afterComma?_of_continues {first t word : Text} {more : List Text}
    (hline : Text.trim (first ++ t) = first ++ t) (h : Continues t (word :: more)) :
    ∃ u, afterComma? t = some (word ++ u) ∧ Text.trim (word ++ u) = word ++ u ∧
      Continues u more := by
  cases h with
  | comma hcomma hfields =>
      have htrim := trim_of_afterComma? hline hcomma
      rcases (fields_eq_cons_iff htrim).mp hfields with ⟨-, -, u, rfl, hu⟩
      exact ⟨u, hcomma, htrim, hu⟩

theorem afterComma?_of_continues {first t type : Text}
    (hline : Text.trim (first ++ t) = first ++ t) (h : Continues t [type]) :
    afterComma? t = some type := by
  rcases exists_afterComma?_of_continues hline h with ⟨u, hcomma, -, hu⟩
  rwa [hu.eq_nil, List.append_nil] at hcomma

theorem read?_of_spells {line : Text} {s : Signature} (hline : Text.trim line = line)
    (h : Spells (fields line) s) : read? line = some s := by
  have hread : ∀ {name more required type}, fields line = name :: more → IsName name →
      (∀ t, Text.trim (name ++ t) = name ++ t → Continues t more →
        requiredAndType? t = some (required, type)) →
      read? line = some ⟨name, required, type⟩ := by
    intro name more required type hfields hname hparts
    rcases (fields_eq_cons_iff hline).mp hfields with ⟨-, -, t, rfl, ht⟩
    exact read?_eq_some_iff.mpr ⟨t, rfl, hname, ht.isNameChar_head, hparts t hline ht⟩
  generalize hfields : fields line = fs at h
  cases h with
  | name hname =>
      apply hread hfields hname
      intro t _ ht
      rw [ht.eq_nil]
      rfl
  | required hname =>
      apply hread hfields hname
      intro t htrim ht
      rcases exists_afterComma?_of_continues htrim ht with ⟨u, hcomma, -, hu⟩
      rw [hu.eq_nil] at hcomma
      exact requiredAndType?_eq_some_true_iff.mpr ⟨[], hcomma, rfl⟩
  | typed hname htype hword =>
      apply hread hfields hname
      intro t htrim ht
      have hcomma := afterComma?_of_continues htrim ht
      exact requiredAndType?_eq_some_false_iff.mpr
        ⟨type?_eq_some_iff.mpr (Or.inr ⟨hcomma, htype⟩), hword⟩
  | requiredTyped hname htype =>
      apply hread hfields hname
      intro t htrim ht
      rcases exists_afterComma?_of_continues htrim ht with ⟨u, hcomma, hagain, hu⟩
      have htyped := type?_eq_some_iff.mpr (Or.inr ⟨afterComma?_of_continues hagain hu, htype⟩)
      exact requiredAndType?_eq_some_true_iff.mpr ⟨u, hcomma, htyped⟩

theorem read?_eq_some_iff_spells {line : Text} {s : Signature} (hline : Text.trim line = line) :
    read? line = some s ↔ Spells (fields line) s :=
  ⟨spells_of_read? hline, read?_of_spells hline⟩

end Signature

namespace Section

/-- A parameter section documents a parameter if and only if the fields of its first line make up a
signature.  The parts of the parameter are these fields, its description the lines behind. -/
theorem parameter?_reads_fields (ls : List Text) :
    (content .parameter ls = [] → parameter? ls = none) ∧
      ∀ line later, content .parameter ls = line :: later →
        ((parameter? ls).isSome = true ↔
          Signature.IsSignature (Signature.fields (Text.trim line))) ∧
        ∀ p, parameter? ls = some p →
          Signature.HasFields ⟨p.name, p.required, p.type⟩ (Signature.fields (Text.trim line)) ∧
            p.description = Text.unwords later := by
  constructor
  · intro hcontent
    rw [parameter?, hcontent]
  · intro line later hcontent
    have hspells : ∀ s, Signature.read? (Text.trim line) = some s ↔
        Signature.Spells (Signature.fields (Text.trim line)) s := by
      intro s
      exact Signature.read?_eq_some_iff_spells (Text.trim_trim line)
    have hparameter : parameter? ls = (Signature.read? (Text.trim line)).map fun s =>
        ⟨s.name, s.required, s.type, Text.unwords later⟩ := by
      rw [parameter?, hcontent]
    rw [hparameter]
    constructor
    · rw [Signature.isSignature_iff_exists_spells, Option.isSome_map, Option.isSome_iff_exists]
      exact exists_congr hspells
    · intro p hp
      rcases Option.map_eq_some_iff.mp hp with ⟨s, hread, rfl⟩
      exact ⟨((hspells s).mp hread).hasFields, rfl⟩

end Section
end EndpointDocs
