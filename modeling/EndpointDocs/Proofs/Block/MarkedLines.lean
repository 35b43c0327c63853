import EndpointDocs.Proofs.Block.Accounting
import EndpointDocs.Proofs.Comment.NormalForm

/-!
# Markers told by lines

Whether a text begins with a marker can be told line by line: lines of leading characters, then one
with the opening word, and a closing parenthesis on it or below it.  Neither blanks at line ends nor
blank lines matter for this, so a comment opens a block exactly if its plain text does.

## The place of the marker

The marker ends at the parenthesis or the colon behind it, so it lies in the lines of the comment
that opens the block, whatever comments follow.
-/

namespace EndpointDocs
namespace Marker

/-!
# Lines that begin with a marker
-/

/-- Whether lines, put one under the other, begin with a marker. -/
def OpensLines : List Text → Prop
  | [] => False
  | l :: rest =>
      match Text.after? opening (l.dropWhile isLeading) with
      | some name => name.head? ≠ some ')' ∧ ∃ m ∈ name :: rest, ')' ∈ m
      | none => (∀ c ∈ l, isLeading c = true) ∧ OpensLines rest

theorem opensLines_cons_of_some {l name : Text}
    (h : Text.after? opening (l.dropWhile isLeading) = some name) (rest : List Text) :
    OpensLines (l :: rest) ↔ name.head? ≠ some ')' ∧ ∃ m ∈ name :: rest, ')' ∈ m := by
  rw [OpensLines, h]

theorem opensLines_cons_of_none {l : Text}
    (h : Text.after? opening (l.dropWhile isLeading) = none) (rest : List Text) :
    OpensLines (l :: rest) ↔ (∀ c ∈ l, isLeading c = true) ∧ OpensLines rest := by
  rw [OpensLines, h]

theorem opensLines_cons_of_leading {l : Text} (h : ∀ c ∈ l, isLeading c = true)
    (rest : List Text) : OpensLines (l :: rest) ↔ OpensLines rest := by
  have hnone : Text.after? opening (l.dropWhile isLeading) = none := by
    rw [List.dropWhile_eq_nil_iff.mpr h]
    rfl
  rw [opensLines_cons_of_none hnone]
  exact and_iff_right h

theorem isSome_read?_iff (t : Text) :
    (read? t).isSome = true ↔
      ∃ name, Text.after? opening (t.dropWhile isLeading) = some name ∧
        name.head? ≠ some ')' ∧ ')' ∈ name := by
  rw [read?]
  change ((Text.after? opening (t.dropWhile isLeading)).bind fromName?).isSome = true ↔ _
  cases Text.after? opening (t.dropWhile isLeading) with
  | none =>
      simp
  | some name =>
      simp [isSome_fromName?_iff]

theorem isSome_read?_append_of_leading {lead : Text} (h : ∀ c ∈ lead, isLeading c = true)
    (t : Text) : (read? (lead ++ t)).isSome = (read? t).isSome := by
  rw [read?, read?, List.dropWhile_append_of_pos h]

/-- What begins with a leading character, behind a text that is not made of them alone, matters only
for the closing parenthesis. -/
theorem isSome_read?_append_cons {l : Text} (hl : l.dropWhile isLeading ≠ []) {c : Char}
    (hopening : c ∉ opening) (hc : c ≠ ')') (back : Text) :
    (read? (l ++ c :: back)).isSome = true ↔
      ∃ name, Text.after? opening (l.dropWhile isLeading) = some name ∧
        name.head? ≠ some ')' ∧ (')' ∈ name ∨ ')' ∈ back) := by
  have hdrop : (l ++ c :: back).dropWhile isLeading = l.dropWhile isLeading ++ c :: back := by
    rw [List.dropWhile_append, if_neg (by simpa using hl)]
  rw [isSome_read?_iff, hdrop, Text.after?_append_cons hopening]
  cases Text.after? opening (l.dropWhile isLeading) with
  | none =>
      simp
  | some name =>
      have hhead : (name ++ c :: back).head? = some ')' ↔ name.head? = some ')' := by
        cases name <;> simp [hc]
      have hmem : ')' ∈ name ++ c :: back ↔ ')' ∈ name ∨ ')' ∈ back := by
        simp [Ne.symm hc]
      simp only [Option.map_some, Option.some.injEq, exists_eq_left', ne_eq, hhead, hmem]

theorem opensLines_iff (ls : List Text) :
    OpensLines ls ↔ (read? (Text.unlines ls)).isSome = true := by
  induction ls with
  | nil =>
      exact iff_of_false id (by decide)
  | cons l rest ih =>
      cases rest with
      | nil =>
          rw [Text.unlines_singleton, isSome_read?_iff]
          cases hname : Text.after? opening (l.dropWhile isLeading) with
          | none =>
              rw [opensLines_cons_of_none hname]
              exact iff_of_false And.right (by simp)
          | some name =>
              rw [opensLines_cons_of_some hname]
              simp
      | cons m later =>
          have hparenthesis : ')' ∈ Text.unlines (m :: later) ↔ ∃ x ∈ m :: later, ')' ∈ x := by
            constructor
            · intro hmem
              rcases Text.mem_unlines hmem with hfeed | hline
              · exact absurd hfeed (by decide)
              · exact hline
            · rintro ⟨x, hx, hmem⟩
              exact Text.mem_unlines_of_mem hx hmem
          rw [Text.unlines_cons (List.cons_ne_nil m later)]
          by_cases hl : l.dropWhile isLeading = []
          · have hlead : ∀ c ∈ l, isLeading c = true := List.dropWhile_eq_nil_iff.mp hl
            have hfeed : ∀ c ∈ l ++ ['\n'], isLeading c = true := by
              intro c hc
              rcases List.mem_append.mp hc with hc | hc
              · exact hlead c hc
              · rw [List.mem_singleton.mp hc]
                decide
            have hskip := isSome_read?_append_of_leading hfeed (Text.unlines (m :: later))
            rw [List.append_assoc, List.singleton_append] at hskip
            rw [opensLines_cons_of_leading hlead, ih, hskip]
          · rw [isSome_read?_append_cons hl (by decide) (by decide), hparenthesis]
            cases hname : Text.after? opening (l.dropWhile isLeading) with
            | none =>
                rw [opensLines_cons_of_none hname]
                refine iff_of_false ?_ (by simp)
                exact fun h => hl (List.dropWhile_eq_nil_iff.mpr h.left)
            | some name =>
                rw [opensLines_cons_of_some hname]
                simp

/-!
# Blanks at line ends
-/

theorem isLeading_of_isBlank {c : Char} (h : Text.isBlank c = true) : isLeading c = true := by
  rw [isLeading, h]
  rfl

theorem leading_trimEnd_iff (l : Text) :
    (∀ c ∈ Text.trimEnd l, isLeading c = true) ↔ ∀ c ∈ l, isLeading c = true := by
  constructor
  · intro h c hc
    cases hblank : Text.isBlank c with
    | true =>
        exact isLeading_of_isBlank hblank
    | false =>
        exact h c ((Text.mem_trimEnd_iff hblank).mpr hc)
  · exact fun h c hc => h c (Text.mem_of_mem_trimEnd hc)

theorem dropWhile_isLeading_trimEnd (l : Text) :
    (Text.trimEnd l).dropWhile isLeading = Text.trimEnd (l.dropWhile isLeading) := by
  have hl : l = l.takeWhile isLeading ++ l.dropWhile isLeading :=
    List.takeWhile_append_dropWhile.symm
  cases hrest : l.dropWhile isLeading with
  | nil =>
      have hlead : ∀ c ∈ l, isLeading c = true := List.dropWhile_eq_nil_iff.mp hrest
      rw [List.dropWhile_eq_nil_iff.mpr fun c hc => hlead c (Text.mem_of_mem_trimEnd hc)]
      rfl
  | cons c later =>
      have hc : isLeading c = false :=
        Text.not_of_mem_head?_dropWhile (l := l) c (by simp [hrest])
      have hblank : Text.isBlank c = false := by
        by_contra hblank
        rw [isLeading_of_isBlank (by simpa using hblank)] at hc
        cases hc
      rw [hrest] at hl
      have htrim : Text.trimEnd l = l.takeWhile isLeading ++ c :: Text.trimEnd later := by
        conv_lhs => rw [hl]
        exact Text.trimEnd_append_cons hblank _ later
      have hstop : Text.trimEnd (c :: later) = c :: Text.trimEnd later :=
        Text.trimEnd_append_cons hblank [] later
      rw [htrim, hstop, List.dropWhile_append_of_pos fun d hd => List.mem_takeWhile_imp hd,
        List.dropWhile_cons_of_neg (by simp [hc])]

theorem after?_opening_trimEnd (t : Text) :
    Text.after? opening (Text.trimEnd t) = (Text.after? opening t).map Text.trimEnd := by
  cases hafter : Text.after? opening t with
  | some name =>
      rw [Text.after?_eq_some_iff.mp hafter]
      have htrim := trimEnd_append_opening [] name
      rw [List.nil_append, List.nil_append] at htrim
      rw [htrim, Text.after?_append, Option.map_some]
  | none =>
      rw [Option.map_none, Option.eq_none_iff_forall_ne_some]
      intro name hname
      rcases Text.exists_eq_dropEndWhile_append Text.isBlank t with ⟨back, ht, -⟩
      rw [← Text.trimEnd, Text.after?_eq_some_iff.mp hname, List.append_assoc] at ht
      rw [ht, Text.after?_append] at hafter
      cases hafter

theorem head?_trimEnd_eq_parenthesis_iff (t : Text) :
    (Text.trimEnd t).head? = some ')' ↔ t.head? = some ')' := by
  constructor
  · exact fun h => Text.mem_head?_of_mem_head?_dropEndWhile h
  · intro h
    rcases List.head?_eq_some_iff.mp h with ⟨rest, rfl⟩
    have htrim : Text.trimEnd (')' :: rest) = ')' :: Text.trimEnd rest :=
      Text.trimEnd_append_cons (by decide) [] rest
    rw [htrim, List.head?_cons]

theorem exists_parenthesis_map_trimEnd_iff (ls : List Text) :
    (∃ l ∈ ls.map Text.trimEnd, ')' ∈ l) ↔ ∃ l ∈ ls, ')' ∈ l := by
  simp only [List.mem_map, exists_exists_and_eq_and, Text.mem_trimEnd_iff (c := ')') (by decide)]

theorem opensLines_map_trimEnd (ls : List Text) :
    OpensLines (ls.map Text.trimEnd) ↔ OpensLines ls := by
  induction ls with
  | nil =>
      rfl
  | cons l rest ih =>
      have hafter : Text.after? opening ((Text.trimEnd l).dropWhile isLeading) =
          (Text.after? opening (l.dropWhile isLeading)).map Text.trimEnd := by
        rw [dropWhile_isLeading_trimEnd, after?_opening_trimEnd]
      rw [List.map_cons]
      cases hname : Text.after? opening (l.dropWhile isLeading) with
      | some name =>
          rw [hname, Option.map_some] at hafter
          rw [opensLines_cons_of_some hafter, opensLines_cons_of_some hname, ← List.map_cons,
            exists_parenthesis_map_trimEnd_iff, ne_eq, ne_eq, head?_trimEnd_eq_parenthesis_iff]
      | none =>
          rw [hname, Option.map_none] at hafter
          rw [opensLines_cons_of_none hafter, opensLines_cons_of_none hname, ih,
            leading_trimEnd_iff]

/-!
# Blank lines
-/

theorem opensLines_filter_isFilled (ls : List Text) :
    OpensLines (ls.filter Comment.isFilled) ↔ OpensLines ls := by
  induction ls with
  | nil =>
      rfl
  | cons l rest ih =>
      cases hl : Comment.isFilled l with
      | false =>
          have hblank : ∀ c ∈ l, Text.isBlank c = true := by
            simpa [Comment.isFilled, Text.allBlank] using hl
          rw [List.filter_cons_of_neg (by simp [hl]),
            opensLines_cons_of_leading fun c hc => isLeading_of_isBlank (hblank c hc), ih]
      | true =>
          have hparenthesis : (∃ m ∈ rest.filter Comment.isFilled, ')' ∈ m) ↔
              ∃ m ∈ rest, ')' ∈ m := by
            constructor
            · rintro ⟨m, hm, hc⟩
              exact ⟨m, List.mem_of_mem_filter hm, hc⟩
            · rintro ⟨m, hm, hc⟩
              have hfilled : Comment.isFilled m = true := by
                rw [Comment.isFilled, Text.allBlank_eq_false_of_mem hc (by decide)]
                rfl
              exact ⟨m, List.mem_filter.mpr ⟨hm, hfilled⟩, hc⟩
          rw [List.filter_cons_of_pos hl]
          cases hname : Text.after? opening (l.dropWhile isLeading) with
          | some name =>
              rw [opensLines_cons_of_some hname, opensLines_cons_of_some hname,
                List.exists_mem_cons_iff, List.exists_mem_cons_iff, hparenthesis]
          | none =>
              rw [opensLines_cons_of_none hname, opensLines_cons_of_none hname, ih]

end Marker

/-!
# Comments and their plain text
-/

namespace Comment

theorem isSome_read?_eq_false_of_isInstruction {t : Text} (h : IsInstruction t) :
    (Marker.read? t).isSome = false := by
  rw [Bool.eq_false_iff]
  intro hread
  rcases Option.isSome_iff_exists.mp hread with ⟨m, hm⟩
  rcases Marker.read?_eq_some_iff.mp hm with ⟨lead, rest, rfl, hlead, -⟩
  have hdirective := isDirective_eq_false_of_marked hlead (m.name ++ ')' :: rest)
  rw [isDirective_eq_true_iff.mpr h] at hdirective
  cases hdirective

theorem isSome_read?_append_closing (t : Text) :
    (Marker.read? (t ++ ['*', '/'])).isSome = (Marker.read? t).isSome := by
  by_cases ht : t.dropWhile Marker.isLeading = []
  · have hlead : ∀ c ∈ t, Marker.isLeading c = true := List.dropWhile_eq_nil_iff.mp ht
    have hnone := Marker.isSome_read?_append_of_leading hlead []
    rw [List.append_nil] at hnone
    rw [Marker.isSome_read?_append_of_leading hlead, hnone]
    rfl
  · rw [Bool.eq_iff_iff, Marker.isSome_read?_append_cons ht (by decide) (by decide),
      Marker.isSome_read?_iff]
    simp

/-- What a comment says begins with a marker exactly if the comment does. -/
theorem isSome_read?_of_content {raw : Text} {said : Option Text} (h : Says raw said) :
    (Marker.read? raw).isSome = (said.bind Marker.read?).isSome := by
  cases h with
  | @directive t h =>
      have hslashes : (Marker.read? ('/' :: '/' :: t)).isSome = (Marker.read? t).isSome := rfl
      rw [hslashes, isSome_read?_eq_false_of_isInstruction h]
      rfl
  | spaced t =>
      rfl
  | line hspace hdirective =>
      rfl
  | closed t =>
      exact isSome_read?_append_closing t
  | unclosed hopen =>
      rfl
  | bare hline hblock =>
      rfl

theorem opensLines_contentLines_iff (raw : Text) :
    Marker.OpensLines (contentLines raw) ↔ (Marker.read? raw).isSome = true := by
  rw [isSome_read?_of_content (says_inner? raw), contentLines]
  cases inner? raw with
  | none =>
      exact iff_of_false id (by simp)
  | some t =>
      rw [Marker.opensLines_map_trimEnd, Marker.opensLines_iff, Text.unlines_lines,
        Option.bind_some]

theorem isSome_read?_plainText_singleton (raw : Text) :
    (Marker.read? (plainText [raw])).isSome = (Marker.read? raw).isSome := by
  have hlines : plainText [raw] = Text.unlines (normalLines (contentLines raw) ++ [[]]) := by
    rw [plainText_eq_unlines, List.flatMap_singleton]
  have hfilled : (normalLines (contentLines raw) ++ [[]]).filter isFilled =
      (contentLines raw).filter isFilled := by
    rw [List.filter_append, filter_isFilled_normalLines]
    exact List.append_nil _
  rw [Bool.eq_iff_iff, hlines, ← Marker.opensLines_iff, ← Marker.opensLines_filter_isFilled,
    hfilled, Marker.opensLines_filter_isFilled, opensLines_contentLines_iff]

/-!
# The lines of the first comment
-/

theorem exists_normalLines_append (ls others : List Text) :
    ∃ theirs, normalLines (ls ++ others) = normalLines ls ++ theirs := by
  rcases squeeze_append true ls others with ⟨gap, hsplit⟩
  rw [normalLines_eq_dropEndWhile, normalLines_eq_dropEndWhile, hsplit]
  exact Text.exists_dropEndWhile_append List.isEmpty _ _

end Comment

namespace Marker

theorem withoutColon_append_lineFeed (t back : Text) :
    withoutColon (t ++ '\n' :: back) = withoutColon t ++ '\n' :: back := by
  cases t with
  | nil =>
      rfl
  | cons c rest =>
      by_cases hc : c = ':'
      · rw [hc]
        rfl
      · simp [withoutColon, hc]

/-- The marker that begins a text does not reach behind the end of its last line. -/
theorem exists_matched {t : Text} {m : Marker} (h : read? (t ++ ['\n']) = some m) (back : Text) :
    ∃ matched body, read? (t ++ '\n' :: back) = some ⟨m.name, body⟩ ∧
      t ++ '\n' :: back = matched ++ body ∧ matched <+: t := by
  rcases exists_eq_of_read?_append (by decide) h with ⟨lead, rest, rfl, hlead, hne, hname⟩
  rcases exists_colon rest with ⟨colon, hcolon⟩
  refine ⟨lead ++ (opening ++ (m.name ++ ')' :: colon)), withoutColon rest ++ '\n' :: back,
    ?_, ?_, ?_⟩
  · rw [read?_eq_some_iff]
    refine ⟨lead, rest ++ '\n' :: back, by simp, hlead, hne, hname, ?_⟩
    rw [withoutColon_append_lineFeed]
  · conv_lhs => rw [hcolon]
    simp
  · refine ⟨withoutColon rest, ?_⟩
    conv_rhs => rw [hcolon]
    simp

/-- How a name reads in plain text: the lines but the last without the blanks at their ends, and one
blank line for each run of them between the first line and the last. -/
structure ReadsAs (name plain : Text) : Prop where
  oneLine : '\n' ∉ name → plain = name
  manyLines : ∀ first inner last, Text.lines name = first :: (inner ++ [last]) →
    plain = Text.unlines (Text.trimEnd first ::
      ((inner.map Text.trimEnd).destutter Comment.NotBothEmpty ++ [last]))

theorem readsAs_plainName (name : Text) : ReadsAs name (plainName name) := by
  constructor
  · exact plainName_of_lines_singleton
  · intro first inner last hlines
    rw [plainName_of_lines hlines, Comment.squeeze_false_eq_destutter]

end Marker

namespace Block

theorem outcome_eq_unmarked_iff {block : List Text} :
    outcome block = .unmarked ↔ Marker.read? (Comment.plainText block) = none := by
  rw [outcome]
  cases Marker.read? (Comment.plainText block) with
  | none =>
      exact iff_of_true rfl rfl
  | some m =>
      refine iff_of_false ?_ (by simp)
      cases hblank : Text.allBlank m.body with
      | true =>
          simp [hblank]
      | false =>
          cases hbody : Endpoint.ofBody m.name m.body <;> simp [hblank, hbody]

theorem outcome_ne_unmarked {group block : List Text} (h : block ∈ ofGroup group) :
    outcome block ≠ .unmarked := by
  rcases cuts_ofGroup group with ⟨-, -, -, hblocks⟩
  rcases hblocks block h with ⟨raw, rest, rfl, hraw, -⟩
  rcases Option.isSome_iff_exists.mp hraw with ⟨m, hm⟩
  rcases Marker.read?_plainText hm rest with ⟨body, hplain⟩
  intro hunmarked
  rw [outcome_eq_unmarked_iff.mp hunmarked] at hplain
  cases hplain

theorem marker_tests_agree (raw : Text) :
    isMarked raw = isMarked (Comment.plainText [raw]) ∧
    (∀ m, Marker.read? raw = some m → ∀ others,
      ∃ mine theirs matched name body,
        Text.lines (Comment.plainText [raw]) = mine ++ [[]] ∧
        Text.lines (Comment.plainText (raw :: others)) = mine ++ theirs ++ [[]] ∧
        Marker.read? (Comment.plainText (raw :: others)) = some ⟨name, body⟩ ∧
        Comment.plainText (raw :: others) = matched ++ body ∧ matched <+: Text.unlines mine ∧
        Marker.ReadsAs m.name name) ∧
    ∀ group, ∀ block ∈ ofGroup group, outcome block ≠ .unmarked := by
  refine ⟨(Comment.isSome_read?_plainText_singleton raw).symm, ?_,
    fun group block hblock => outcome_ne_unmarked hblock⟩
  intro m hm others
  rcases Marker.read?_plainText hm [] with ⟨_, hone⟩
  rcases Comment.exists_normalLines_append (Comment.contentLines raw)
    (others.flatMap Comment.contentLines) with ⟨theirs, htheirs⟩
  let mine := Comment.normalLines (Comment.contentLines raw)
  have hmine : Comment.plainText [raw] = Text.unlines (mine ++ [[]]) := by
    rw [Comment.plainText_eq_unlines, List.flatMap_singleton]
  have hall : Comment.plainText (raw :: others) = Text.unlines (mine ++ (theirs ++ [[]])) := by
    rw [Comment.plainText_eq_unlines, List.flatMap_cons, htheirs, List.append_assoc]
  have hne : mine ≠ [] := by
    intro hnil
    rw [hmine, hnil] at hone
    cases hone
  rw [hmine, Text.unlines_append hne (by simp), Text.unlines_singleton] at hone
  rcases Marker.exists_matched hone (Text.unlines (theirs ++ [[]])) with
    ⟨matched, body, hread, hsplit, hmatched⟩
  rw [← Text.unlines_append hne (by simp), ← hall] at hread hsplit
  refine ⟨mine, theirs, matched, Marker.plainName m.name, body, ?_, ?_, hread, hsplit, hmatched,
    Marker.readsAs_plainName m.name⟩
  · rw [Comment.lines_plainText, List.flatMap_singleton]
  · rw [Comment.lines_plainText, List.flatMap_cons, htheirs]

end Block
end EndpointDocs
