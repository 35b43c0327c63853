import EndpointDocs.Proofs.Text.Characters
import EndpointDocs.Proofs.Text.Ends
import EndpointDocs.Section.Signature

/-!
# Reading signatures back

A signature is written as the name, `required` if the parameter is, and the type if there is one,
with a comma and a space between them.  It is read back as it was, unless the type of a parameter
that is not required is just the word `required`.
-/

namespace EndpointDocs
namespace Signature

def text (s : Signature) : Text :=
  s.name ++ ((if s.required then ", required".toList else []) ++
    if s.type.isEmpty then [] else ',' :: ' ' :: s.type)

/-- The signatures whose parts can stand in a signature line. -/
structure IsWritable (s : Signature) : Prop where
  name_ne_nil : s.name ≠ []
  name_chars : ∀ c ∈ s.name, isNameChar c = true
  type_chars : ∀ c ∈ s.type, isTypeChar c = true
  type_trimmed : Text.trim s.type = s.type
  type_ne_required : s.required = false → s.type ≠ "required".toList

instance (s : Signature) : Decidable s.IsWritable :=
  decidable_of_iff (s.name ≠ [] ∧ s.name.all isNameChar = true ∧ s.type.all isTypeChar = true ∧
    Text.trim s.type = s.type ∧ (s.required = false → s.type ≠ "required".toList))
    ⟨fun ⟨hne, hname, htype, htrim, hword⟩ =>
        ⟨hne, List.all_eq_true.mp hname, List.all_eq_true.mp htype, htrim, hword⟩,
      fun ⟨hne, hname, htype, htrim, hword⟩ =>
        ⟨hne, List.all_eq_true.mpr hname, List.all_eq_true.mpr htype, htrim, hword⟩⟩

/-- The texts that can be names. -/
def IsName (t : Text) : Prop :=
  t ≠ [] ∧ ∀ c ∈ t, isNameChar c = true

/-- The texts that can be types, apart from the blanks at their ends. -/
def IsType (t : Text) : Prop :=
  t ≠ [] ∧ ∀ c ∈ t, isTypeChar c = true

/-!
# Commas
-/

theorem afterComma?_eq_some_iff {t u : Text} :
    afterComma? t = some u ↔ ∃ blanks later, t = blanks ++ ',' :: later ∧
      (∀ c ∈ blanks, Text.isBlank c = true) ∧ u = Text.trimStart later := by
  constructor
  · intro h
    unfold afterComma? at h
    split at h
    · next later hlater =>
        injection h with h
        refine ⟨t.takeWhile Text.isBlank, later, ?_, ?_, h.symm⟩
        · rw [← hlater]
          exact List.takeWhile_append_dropWhile.symm
        · intro c hc
          exact List.mem_takeWhile_imp hc
    · cases h
  · rintro ⟨blanks, later, rfl, hblanks, rfl⟩
    have hstart : Text.trimStart (blanks ++ ',' :: later) = ',' :: later := by
      rw [Text.trimStart, List.dropWhile_append_of_pos hblanks]
      exact Text.trimStart_eq_self (by rintro c ⟨⟩; decide)
    rw [afterComma?, hstart]
    rfl

theorem afterComma?_written {t : Text} (h : Text.trimStart t = t) :
    afterComma? (',' :: ' ' :: t) = some t := by
  apply afterComma?_eq_some_iff.mpr
  refine ⟨[], ' ' :: t, rfl, by simp, ?_⟩
  have hdrop : Text.trimStart (' ' :: t) = Text.trimStart t := by
    rfl
  rw [hdrop, h]

theorem afterComma?_eq_none {t : Text} (h : ',' ∉ t) : afterComma? t = none := by
  apply Option.eq_none_iff_forall_ne_some.mpr
  intro u hu
  rcases afterComma?_eq_some_iff.mp hu with ⟨blanks, later, rfl, -, -⟩
  exact h (List.mem_append_right _ List.mem_cons_self)

theorem suffix_of_afterComma? {t later : Text} (h : afterComma? t = some later) :
    later <:+ t ∧ Text.trimStart later = later := by
  rcases afterComma?_eq_some_iff.mp h with ⟨blanks, rest, rfl, -, rfl⟩
  constructor
  · have hrest : rest <:+ blanks ++ ',' :: rest := ⟨blanks ++ [','], by simp⟩
    exact (List.dropWhile_suffix Text.isBlank).trans hrest
  · exact Text.trimStart_eq_self Text.not_of_mem_head?_dropWhile

/-!
# Types

The type is what the line ends with, so no blanks stand at its end if none stand at the end of the
line.
-/

theorem IsType.comma_not_mem {t : Text} (h : IsType t) : ',' ∉ t := by
  intro hmem
  exact absurd (h.right ',' hmem) (by decide)

theorem type?_eq_some_iff {t type : Text} :
    type? t = some type ↔ (t = [] ∧ type = []) ∨ (afterComma? t = some type ∧ IsType type) := by
  cases t with
  | nil =>
      have hcomma : afterComma? [] = none := by
        rfl
      simp [type?, hcomma, eq_comm]
  | cons c rest =>
      simp [type?, Option.filter_eq_some_iff, IsType]

theorem suffix_of_type? {t type : Text} (h : type? t = some type) :
    type <:+ t ∧ Text.trimStart type = type ∧ ∀ c ∈ type, isTypeChar c = true := by
  rcases type?_eq_some_iff.mp h with ⟨rfl, rfl⟩ | ⟨hcomma, htype⟩
  · exact ⟨List.nil_suffix, rfl, by simp⟩
  · rcases suffix_of_afterComma? hcomma with ⟨hsuffix, hstart⟩
    exact ⟨hsuffix, hstart, htype.right⟩

/-!
# The word `required`

The word counts only in front of a comma or the end of the line.  Elsewhere it begins a type, and it
is never a type by itself.
-/

theorem requiredAndType?_eq_some_true_iff {t type : Text} :
    requiredAndType? t = some (true, type) ↔
      ∃ u, afterComma? t = some ("required".toList ++ u) ∧ type? u = some type := by
  constructor
  · intro h
    rw [requiredAndType?, Option.or_eq_some_iff] at h
    rcases h with hrequired | ⟨-, hplain⟩
    · rcases Option.map_eq_some_iff.mp hrequired with ⟨found, hbind, heq⟩
      injection heq with _ hfound
      subst hfound
      rcases Option.bind_eq_some_iff.mp hbind with ⟨u, hafter, htype⟩
      rcases Option.bind_eq_some_iff.mp hafter with ⟨later, hcomma, hsplit⟩
      rw [Text.after?_eq_some_iff.mp hsplit] at hcomma
      exact ⟨u, hcomma, htype⟩
    · rcases Option.map_eq_some_iff.mp hplain with ⟨found, -, heq⟩
      cases heq
  · rintro ⟨u, hcomma, htype⟩
    have hafter : afterRequired? t = some u := by
      rw [afterRequired?, hcomma, Option.bind_some, Text.after?_append]
    rw [requiredAndType?, hafter, Option.bind_some, htype]
    rfl

theorem bind_afterRequired?_eq_none {t type : Text} (h : type? t = some type)
    (hword : type ≠ "required".toList) : (afterRequired? t).bind type? = none := by
  apply Option.eq_none_iff_forall_ne_some.mpr
  intro found hfound
  rcases Option.bind_eq_some_iff.mp hfound with ⟨u, hafter, hu⟩
  rcases Option.bind_eq_some_iff.mp hafter with ⟨later, hlater, hsplit⟩
  rcases type?_eq_some_iff.mp h with ⟨rfl, -⟩ | ⟨hcomma, htype⟩
  · cases hlater
  · -- The type begins with the word, and a comma would have to follow inside of the type.
    have htyped : type = "required".toList ++ u := by
      rw [hcomma] at hlater
      rw [Option.some.inj hlater]
      exact Text.after?_eq_some_iff.mp hsplit
    have hcomma_not_mem : ',' ∉ u := by
      intro hmem
      exact htype.comma_not_mem (by rw [htyped]; exact List.mem_append_right _ hmem)
    rcases type?_eq_some_iff.mp hu with ⟨rfl, -⟩ | ⟨hagain, -⟩
    · exact hword (by rw [htyped, List.append_nil])
    · rw [afterComma?_eq_none hcomma_not_mem] at hagain
      cases hagain

theorem requiredAndType?_eq_some_false_iff {t type : Text} :
    requiredAndType? t = some (false, type) ↔
      type? t = some type ∧ type ≠ "required".toList := by
  constructor
  · intro h
    rw [requiredAndType?, Option.or_eq_some_iff] at h
    rcases h with hrequired | ⟨hnone, hplain⟩
    · rcases Option.map_eq_some_iff.mp hrequired with ⟨found, -, heq⟩
      cases heq
    · have htype : type? t = some type := by
        simpa using hplain
      refine ⟨htype, ?_⟩
      rintro rfl
      -- The word would have been read before the type was tried.
      have hcomma : afterComma? t = some "required".toList := by
        rcases type?_eq_some_iff.mp htype with ⟨-, hnil⟩ | ⟨hcomma, -⟩
        · cases hnil
        · exact hcomma
      rw [afterRequired?, hcomma] at hnone
      cases hnone
  · rintro ⟨htype, hword⟩
    rw [requiredAndType?, bind_afterRequired?_eq_none htype hword, htype]
    rfl

theorem suffix_of_requiredAndType? {t type : Text} {required : Bool}
    (h : requiredAndType? t = some (required, type)) :
    type <:+ t ∧ Text.trimStart type = type ∧ (∀ c ∈ type, isTypeChar c = true) ∧
      (required = false → type ≠ "required".toList) := by
  cases required with
  | true =>
      rcases requiredAndType?_eq_some_true_iff.mp h with ⟨u, hcomma, htype⟩
      rcases suffix_of_type? htype with ⟨hsuffix, hstart, hchars⟩
      have hu : u <:+ t :=
        (List.suffix_append _ u).trans (suffix_of_afterComma? hcomma).left
      exact ⟨hsuffix.trans hu, hstart, hchars, nofun⟩
  | false =>
      rcases requiredAndType?_eq_some_false_iff.mp h with ⟨htype, hword⟩
      rcases suffix_of_type? htype with ⟨hsuffix, hstart, hchars⟩
      exact ⟨hsuffix, hstart, hchars, fun _ => hword⟩

/-!
# Whole signatures
-/

theorem read?_eq_some_iff {line : Text} {s : Signature} :
    read? line = some s ↔ ∃ t, line = s.name ++ t ∧ IsName s.name ∧
      (∀ c ∈ t.head?, isNameChar c = false) ∧ requiredAndType? t = some (s.required, s.type) := by
  constructor
  · intro h
    rw [read?] at h
    split at h
    · cases h
    · next hname =>
        rcases Option.map_eq_some_iff.mp h with ⟨⟨required, type⟩, hparts, rfl⟩
        refine ⟨line.dropWhile isNameChar, List.takeWhile_append_dropWhile.symm, ⟨?_, ?_⟩,
          Text.not_of_mem_head?_dropWhile, hparts⟩
        · simpa using hname
        · intro c hc
          exact List.mem_takeWhile_imp hc
  · rintro ⟨t, rfl, hname, hhead, hparts⟩
    have htake : t.takeWhile isNameChar = [] ∧ t.dropWhile isNameChar = t := by
      cases t with
      | nil =>
          exact ⟨rfl, rfl⟩
      | cons c rest =>
          have hc : isNameChar c = false := hhead c rfl
          simp [hc]
    have hempty : s.name.isEmpty = false := by
      simpa using hname.left
    rw [read?, List.takeWhile_append_of_pos hname.right, List.dropWhile_append_of_pos hname.right,
      htake.left, htake.right, List.append_nil, hempty, hparts]
    rfl

theorem type?_written {type : Text} (hstart : Text.trimStart type = type)
    (hchars : ∀ c ∈ type, isTypeChar c = true) :
    type? (if type.isEmpty then [] else ',' :: ' ' :: type) = some type := by
  cases type with
  | nil =>
      rfl
  | cons c rest =>
      exact type?_eq_some_iff.mpr (Or.inr ⟨afterComma?_written hstart, by simp, hchars⟩)

theorem read?_text {s : Signature} (h : s.IsWritable) : read? s.text = some s := by
  have hstart : Text.trimStart s.type = s.type :=
    Text.trimStart_eq_self (Text.trim_eq_self_iff.mp h.type_trimmed).left
  have htype := type?_written hstart h.type_chars
  apply read?_eq_some_iff.mpr
  refine ⟨_, rfl, ⟨h.name_ne_nil, h.name_chars⟩, ?_, ?_⟩
  · intro c hc
    have hcomma : c = ',' := by
      cases hrequired : s.required <;> cases hnil : s.type <;> simp [hrequired, hnil] at hc <;>
        exact hc.symm
    rw [hcomma]
    decide
  · cases hrequired : s.required with
    | true =>
        exact requiredAndType?_eq_some_true_iff.mpr ⟨_, afterComma?_written rfl, htype⟩
    | false =>
        exact requiredAndType?_eq_some_false_iff.mpr ⟨htype, h.type_ne_required hrequired⟩

theorem isWritable_of_read? {line : Text} {s : Signature} (hline : Text.trim line = line)
    (h : read? line = some s) : s.IsWritable := by
  rcases read?_eq_some_iff.mp h with ⟨t, ht, hname, -, hparts⟩
  rcases suffix_of_requiredAndType? hparts with ⟨hsuffix, hstart, hchars, hrequired⟩
  have hend : s.type <:+ line := by
    rw [ht]
    exact hsuffix.trans (List.suffix_append _ t)
  exact ⟨hname.left, hname.right, hchars, Text.trim_of_suffix hline hend hstart, hrequired⟩

/-!
# Signatures as ends of lines

A signature begins with a character of the name and ends with one of the name, of `required` or of
the type, so no blanks stand at its ends.
-/

theorem isBlank_eq_false_of_isNameChar {c : Char} (h : isNameChar c = true) :
    Text.isBlank c = false := by
  rcases Bool.or_eq_true_iff.mp h with hword | hhyphen
  · exact Text.isBlank_eq_false_of_isWord hword
  · rw [beq_iff_eq.mp hhyphen]
    decide

theorem isBlank_head_text {s : Signature} (h : s.IsWritable) :
    ∀ c ∈ s.text.head?, Text.isBlank c = false := by
  intro c hc
  cases hname : s.name with
  | nil =>
      exact absurd hname h.name_ne_nil
  | cons first rest =>
      rw [text, hname] at hc
      cases hc
      exact isBlank_eq_false_of_isNameChar (h.name_chars c (by simp [hname]))

theorem isBlank_getLast_text {s : Signature} (h : s.IsWritable) :
    ∀ c ∈ s.text.getLast?, Text.isBlank c = false := by
  intro c hc
  cases htype : s.type with
  | cons first rest =>
      have hlast : c ∈ s.type.getLast? := by
        rw [text, htype, List.isEmpty_cons, if_neg Bool.false_ne_true] at hc
        rw [htype]
        rwa [List.getLast?_append_of_ne_nil _ (List.append_ne_nil_of_right_ne_nil _ (by simp)),
          List.getLast?_append_of_ne_nil _ (by simp), List.getLast?_cons_cons,
          List.getLast?_cons_cons] at hc
      exact (Text.trim_eq_self_iff.mp h.type_trimmed).right c hlast
  | nil =>
      rw [text, htype, List.isEmpty_nil, if_pos rfl, List.append_nil] at hc
      cases hrequired : s.required with
      | true =>
          rw [hrequired, if_pos rfl, List.getLast?_append] at hc
          cases hc
          decide
      | false =>
          rw [hrequired, if_neg Bool.false_ne_true, List.append_nil] at hc
          exact isBlank_eq_false_of_isNameChar (h.name_chars c (List.mem_of_mem_getLast? hc))

theorem trim_text {s : Signature} (h : s.IsWritable) : Text.trim s.text = s.text :=
  Text.trim_eq_self (isBlank_head_text h) (isBlank_getLast_text h)

theorem allBlank_text {s : Signature} (h : s.IsWritable) : Text.allBlank s.text = false := by
  rcases List.exists_mem_of_ne_nil _ h.name_ne_nil with ⟨c, hc⟩
  exact Text.allBlank_eq_false_of_mem (List.mem_append_left _ hc)
    (isBlank_eq_false_of_isNameChar (h.name_chars c hc))

theorem lineFeed_not_mem_text {s : Signature} (h : s.IsWritable) (htype : '\n' ∉ s.type) :
    '\n' ∉ s.text := by
  have hname : '\n' ∉ s.name := by
    intro hmem
    exact absurd (h.name_chars '\n' hmem) (by decide)
  have hrequired : '\n' ∉ if s.required then ", required".toList else [] := by
    cases s.required <;> decide
  have hlast : '\n' ∉ if s.type.isEmpty then [] else ',' :: ' ' :: s.type := by
    cases hempty : s.type.isEmpty with
    | true =>
        simp
    | false =>
        simpa using htype
  rw [text, List.mem_append, List.mem_append]
  rintro (hmem | hmem | hmem)
  · exact hname hmem
  · exact hrequired hmem
  · exact hlast hmem

end Signature
end EndpointDocs
