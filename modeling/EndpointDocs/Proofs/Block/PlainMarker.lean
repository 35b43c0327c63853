import EndpointDocs.Proofs.Block.Marker
import EndpointDocs.Proofs.Comment.Content

/-!
# Markers in plain text

The plain text of a comment that begins with a marker begins with one too: delimiters are leading
characters, a directive never has a marker, and neither trimming lines nor dropping blank lines can
take away the opening word or the parenthesis.

## The name in plain text

A name may run over several lines.  In plain text the blanks at the ends of its lines are gone,
except before the closing parenthesis, and blank lines inside it are squeezed.
-/

namespace EndpointDocs

/-!
# Leading characters
-/

namespace Marker

theorem not_isToolChar_of_isLeading {c : Char} (h : isLeading c = true) :
    Comment.isToolChar c = false := by
  have hcode : c.toNat < 48 ∨ 122 < c.toNat := by
    rw [isLeading, Bool.or_eq_true, Bool.or_eq_true, beq_iff_eq, beq_iff_eq] at h
    rcases h with (hblank | hslash) | hstar
    · rcases Text.inRanges_eq_true_iff.mp hblank with ⟨range, hrange, hlow, hhigh⟩
      simp only [Text.blanks, List.mem_cons, List.not_mem_nil, or_false] at hrange
      rcases hrange with h | h | h | h | h | h | h | h | h | h <;>
        (rw [h] at hlow hhigh; simp only at hlow hhigh; omega)
    · rw [hslash]
      decide
    · rw [hstar]
      decide
  have hlower : c.isLower = false := by
    change (decide ('a'.val ≤ c.val) && decide (c.val ≤ 'z'.val)) = false
    simp only [Bool.and_eq_false_iff, decide_eq_false_iff_not, UInt32.le_iff_toNat_le]
    change ¬ 97 ≤ c.toNat ∨ ¬ c.toNat ≤ 122
    omega
  have hdigit : c.isDigit = false := by
    change (decide ('0'.val ≤ c.val) && decide (c.val ≤ '9'.val)) = false
    simp only [Bool.and_eq_false_iff, decide_eq_false_iff_not, UInt32.le_iff_toNat_le]
    change ¬ 48 ≤ c.toNat ∨ ¬ c.toNat ≤ 57
    omega
  rw [Comment.isToolChar, hlower, hdigit]
  rfl

/-- Leading characters at the start of a text with a marker stand before the marker. -/
theorem exists_lead_of_append_eq (delimiter : Text) {lead marked rest : Text}
    (hdelimiter : ∀ c ∈ delimiter, isLeading c = true)
    (h : lead ++ (opening ++ marked) = delimiter ++ rest) :
    ∃ lead', lead = delimiter ++ lead' ∧ rest = lead' ++ (opening ++ marked) := by
  rcases List.append_eq_append_iff.mp h with ⟨extra, hext, hrest⟩ | ⟨lead', hlead, hrest⟩
  · cases extra with
    | nil =>
        exact ⟨[], by simpa using hext.symm, by simpa using hrest.symm⟩
    | cons c more =>
        have hc : isLeading c = true := hdelimiter c (by simp [hext])
        injection hrest with hhead _
        rw [← hhead] at hc
        exact absurd hc (by decide)
  · exact ⟨lead', hlead, hrest⟩

end Marker

/-!
# Delimiters

What a comment with a marker says begins with the same marker.
-/

namespace Comment

theorem isDirective_eq_false_of_marked {lead : Text}
    (hlead : ∀ c ∈ lead, Marker.isLeading c = true) (marked : Text) :
    isDirective (lead ++ (Marker.opening ++ marked)) = false := by
  cases lead with
  | nil =>
      rfl
  | cons c rest =>
      have hc : isToolChar c = false :=
        Marker.not_isToolChar_of_isLeading (hlead c (by simp))
      simp [isDirective, hc]

theorem inner?_of_marked {lead : Text} (hlead : ∀ c ∈ lead, Marker.isLeading c = true)
    (name rest : Text) :
    ∃ lead' rest',
      inner? (lead ++ (Marker.opening ++ (name ++ ')' :: rest))) =
        some (lead' ++ (Marker.opening ++ (name ++ ')' :: rest'))) ∧
      ∀ c ∈ lead', Marker.isLeading c = true := by
  have hsuffix : ∀ {delimiter lead' : Text}, lead = delimiter ++ lead' →
      ∀ c ∈ lead', Marker.isLeading c = true := by
    intro delimiter lead' heq c hc
    exact hlead c (by simp [heq, hc])
  generalize hraw : lead ++ (Marker.opening ++ (name ++ ')' :: rest)) = raw
  unfold inner?
  split
  · next said =>
      rcases Marker.exists_lead_of_append_eq ['/', '/', ' ']
        (List.all_eq_true.mp (by decide)) hraw with
        ⟨lead', heq, hsaid⟩
      exact ⟨lead', rest, by rw [hsaid], hsuffix heq⟩
  · next said _ =>
      rcases Marker.exists_lead_of_append_eq ['/', '/']
        (List.all_eq_true.mp (by decide)) hraw with
        ⟨lead', heq, hsaid⟩
      refine ⟨lead', rest, ?_, hsuffix heq⟩
      rw [hsaid, isDirective_eq_false_of_marked (hsuffix heq)]
      rfl
  · next said =>
      rcases Marker.exists_lead_of_append_eq ['/', '*']
        (List.all_eq_true.mp (by decide)) hraw with
        ⟨lead', heq, hsaid⟩
      refine ⟨lead', withoutClosing rest, ?_, hsuffix heq⟩
      have hclosing := withoutClosing_append_cons (c := ')') (by decide) (by decide)
        (lead' ++ (Marker.opening ++ name)) rest
      rw [hsaid]
      simpa using hclosing
  · exact ⟨lead, rest, by rw [hraw], hlead⟩

end Comment

/-!
# Names of several lines
-/

namespace Marker

/-- The name that plain text gives to a marker with this name. -/
def plainName (name : Text) : Text :=
  match Text.lines name with
  | first :: second :: later =>
      Text.unlines (Text.trimEnd first ::
        (Comment.squeeze false ((second :: later).dropLast.map Text.trimEnd) ++
          [(second :: later).getLast (by simp)]))
  | _ => name

theorem plainName_of_lines {name first last : Text} {inner : List Text}
    (h : Text.lines name = first :: (inner ++ [last])) :
    plainName name =
      Text.unlines (Text.trimEnd first ::
        (Comment.squeeze false (inner.map Text.trimEnd) ++ [last])) := by
  unfold plainName
  split
  · next a b later heq =>
      rw [h] at heq
      injection heq with ha hlater
      have hlast : (b :: later).getLast (by simp) = last := by
        simp [← hlater]
      have hinner : (b :: later).dropLast = inner := by
        rw [← hlater]
        simp
      rw [hlast, hinner, ha]
  · next hne =>
      cases inner with
      | nil => exact absurd h (hne first last [])
      | cons b later => exact absurd h (hne first b (later ++ [last]))

theorem plainName_of_lines_singleton {name : Text} (h : '\n' ∉ name) : plainName name = name := by
  rw [plainName, Text.lines_eq_singleton h]

/-- A name is one line, or has a first and a last line with others between them. -/
theorem lines_name_cases (name : Text) :
    '\n' ∉ name ∨ ∃ first inner last, Text.lines name = first :: (inner ++ [last]) := by
  rcases Text.exists_lines_eq_cons name with ⟨first, later, hlines⟩
  cases later with
  | nil =>
      have hname : name = first := by
        rw [← Text.unlines_lines name, hlines, Text.unlines_singleton]
      rw [hname]
      exact Or.inl (Text.lineFeed_not_mem_of_mem_lines (t := name) (by simp [hlines]))
  | cons second rest =>
      refine Or.inr ⟨first, (second :: rest).dropLast, (second :: rest).getLast (by simp), ?_⟩
      rw [List.dropLast_concat_getLast, hlines]

theorem plainName_ne_nil {name : Text} (h : name ≠ []) : plainName name ≠ [] := by
  rcases lines_name_cases name with hsingle | ⟨first, inner, last, hlines⟩
  · rw [plainName_of_lines_singleton hsingle]
    exact h
  · rw [plainName_of_lines hlines, Text.unlines_cons (by simp)]
    simp

theorem parenthesis_not_mem_plainName {name : Text} (h : ')' ∉ name) : ')' ∉ plainName name := by
  rcases lines_name_cases name with hsingle | ⟨first, inner, last, hlines⟩
  · rw [plainName_of_lines_singleton hsingle]
    exact h
  · have hline : ∀ l ∈ Text.lines name, ')' ∉ l := fun l hl hc => h (Text.mem_of_mem_lines hl hc)
    rw [hlines] at hline
    rw [plainName_of_lines hlines]
    intro hmem
    rcases Text.mem_unlines hmem with hfeed | ⟨l, hl, hc⟩
    · exact absurd hfeed (by decide)
    · rcases List.mem_cons.mp hl with hfirst | hrest
      · rw [hfirst] at hc
        exact hline first (by simp) (Text.mem_of_mem_trimEnd hc)
      · rcases List.mem_append.mp hrest with hinner | hlast
        · rcases List.mem_map.mp (Comment.mem_of_mem_squeeze hinner) with ⟨x, hx, hxl⟩
          rw [← hxl] at hc
          exact hline x (by simp [hx]) (Text.mem_of_mem_trimEnd hc)
        · rw [List.mem_singleton.mp hlast] at hc
          exact hline last (by simp) hc

/-!
# Plain text
-/

theorem trimEnd_append_opening (l rest : Text) :
    Text.trimEnd (l ++ (opening ++ rest)) = l ++ (opening ++ Text.trimEnd rest) := by
  have hsplit : ∀ r : Text, l ++ (opening ++ r) = l ++ "apidoc".toList ++ '(' :: r := by
    intro r
    rw [List.append_assoc]
    rfl
  rw [hsplit, hsplit, Text.trimEnd_append_cons (by decide)]

theorem isLeading_of_mem_squeezed {lead l : Text} {before : List Text}
    (hlead : ∀ c ∈ lead, isLeading c = true) (hlines : Text.lines lead = before ++ [l]) :
    ∀ c ∈ Text.unlines (Comment.squeeze true (before.map Text.trimEnd) ++ [l]),
      isLeading c = true := by
  have hline : ∀ x ∈ before ++ [l], ∀ c ∈ x, isLeading c = true := by
    intro x hx c hc
    rw [← hlines] at hx
    exact hlead c (Text.mem_of_mem_lines hx hc)
  intro c hc
  rcases Text.mem_unlines hc with hfeed | ⟨x, hx, hcx⟩
  · rw [hfeed]
    decide
  · rcases List.mem_append.mp hx with hbefore | hlast
    · rcases List.mem_map.mp (Comment.mem_of_mem_squeeze hbefore) with ⟨y, hy, hyx⟩
      rw [← hyx] at hcx
      exact hline y (by simp [hy]) c (Text.mem_of_mem_trimEnd hcx)
    · rw [List.mem_singleton.mp hlast] at hcx
      exact hline l (by simp) c hcx

/-- Trimming and squeezing keep a marker whose name is one line. -/
theorem unlines_normalLines_of_oneLine (before after : List Text) (l name r : Text)
    (others : List Text) :
    ∃ tail, Text.unlines (Comment.normalLines
        ((before ++ (l ++ (opening ++ (name ++ ')' :: r))) :: after).map Text.trimEnd ++ others)) =
      Text.unlines (Comment.squeeze true (before.map Text.trimEnd) ++ [l]) ++
        (opening ++ (name ++ ')' :: tail)) := by
  let kept := Text.dropEndWhile List.isEmpty
    (Comment.squeeze false (after.map Text.trimEnd ++ others))
  have hline : Text.trimEnd (l ++ (opening ++ (name ++ ')' :: r))) =
      l ++ (opening ++ (name ++ ')' :: Text.trimEnd r)) := by
    rw [trimEnd_append_opening, Text.trimEnd_append_cons (by decide)]
  have hnormal : Comment.normalLines
      ((before ++ (l ++ (opening ++ (name ++ ')' :: r))) :: after).map Text.trimEnd ++ others) =
      Comment.squeeze true (before.map Text.trimEnd) ++
        (l ++ (opening ++ (name ++ ')' :: Text.trimEnd r))) :: kept := by
    rw [List.map_append, List.map_cons, hline, List.append_assoc, List.cons_append]
    exact Comment.normalLines_append_cons (by simp [opening_ne_nil]) _ _
  have hrest : Text.unlines ((opening ++ (name ++ ')' :: Text.trimEnd r)) :: kept) =
      opening ++ (name ++ ')' :: Text.unlines (Text.trimEnd r :: kept)) := by
    have hstart := Text.unlines_append_cons (opening ++ name ++ [')']) (Text.trimEnd r) kept
    simpa using hstart
  exact ⟨Text.unlines (Text.trimEnd r :: kept), by
    rw [hnormal, Text.unlines_append_glued, hrest]⟩

/-- Trimming and squeezing keep a marker whose name runs over several lines. -/
theorem unlines_normalLines_of_manyLines (before inner after : List Text) (l first last r : Text)
    (others : List Text) :
    ∃ tail, Text.unlines (Comment.normalLines
        ((before ++ (l ++ (opening ++ first)) :: (inner ++ (last ++ ')' :: r) :: after)).map
          Text.trimEnd ++ others)) =
      Text.unlines (Comment.squeeze true (before.map Text.trimEnd) ++ [l]) ++
        (opening ++ (Text.unlines (Text.trimEnd first ::
          (Comment.squeeze false (inner.map Text.trimEnd) ++ [last])) ++ ')' :: tail)) := by
  let kept := Text.dropEndWhile List.isEmpty
    (Comment.squeeze false (after.map Text.trimEnd ++ others))
  let middle := Comment.squeeze false (inner.map Text.trimEnd)
  have hclose : Text.trimEnd (last ++ ')' :: r) = last ++ ')' :: Text.trimEnd r :=
    Text.trimEnd_append_cons (by decide) last r
  have hnormal : Comment.normalLines
      ((before ++ (l ++ (opening ++ first)) :: (inner ++ (last ++ ')' :: r) :: after)).map
        Text.trimEnd ++ others) =
      Comment.squeeze true (before.map Text.trimEnd) ++
        (l ++ (opening ++ Text.trimEnd first)) ::
          (middle ++ (last ++ ')' :: Text.trimEnd r) :: kept) := by
    rw [List.map_append, List.map_cons, trimEnd_append_opening, List.map_append, List.map_cons,
      hclose, List.append_assoc, List.cons_append, List.append_assoc, List.cons_append,
      Comment.normalLines_append_cons (by simp [opening_ne_nil]),
      Comment.squeeze_append_cons (by simp), Text.dropEndWhile_append_cons (by simp)]
  have hrest : Text.unlines ((opening ++ Text.trimEnd first) ::
      (middle ++ (last ++ ')' :: Text.trimEnd r) :: kept)) =
      opening ++ (Text.unlines (Text.trimEnd first :: (middle ++ [last])) ++
        ')' :: Text.unlines (Text.trimEnd r :: kept)) := by
    have hglued := Text.unlines_append_glued (Text.trimEnd first :: middle) kept last
      (')' :: Text.trimEnd r)
    have hclosing := Text.unlines_append_cons [')'] (Text.trimEnd r) kept
    rw [List.singleton_append] at hclosing
    rw [List.cons_append, List.cons_append, hclosing] at hglued
    rw [Text.unlines_append_cons, hglued]
    rfl
  exact ⟨Text.unlines (Text.trimEnd r :: kept), by
    rw [hnormal, Text.unlines_append_glued, hrest]⟩

/-- Trimming and squeezing the lines of a text keep the marker that begins it. -/
theorem unlines_normalLines_of_marked {lead : Text} (hlead : ∀ c ∈ lead, isLeading c = true)
    (name tail : Text) (others : List Text) :
    ∃ lead' tail',
      Text.unlines (Comment.normalLines
        ((Text.lines (lead ++ (opening ++ (name ++ ')' :: tail)))).map Text.trimEnd ++ others)) =
        lead' ++ (opening ++ (plainName name ++ ')' :: tail')) ∧
      ∀ c ∈ lead', isLeading c = true := by
  rcases Text.exists_lines_eq_concat lead with ⟨before, l, hbefore⟩
  rcases Text.exists_lines_eq_cons tail with ⟨r, after, hafter⟩
  have hclose : Text.lines (')' :: tail) = (')' :: r) :: after := by
    rw [Text.lines_cons (by decide), hafter, List.modifyHead_cons]
  have hopen : Text.lines (lead ++ opening) = before ++ [l ++ opening] :=
    Text.lines_append hbefore (Text.lines_eq_singleton (by decide))
  have hlead' := isLeading_of_mem_squeezed hlead hbefore
  rcases lines_name_cases name with hsingle | ⟨first, inner, last, hname⟩
  · have hlines : Text.lines (lead ++ (opening ++ (name ++ ')' :: tail))) =
        before ++ (l ++ (opening ++ (name ++ ')' :: r))) :: after := by
      have hupto : Text.lines (lead ++ opening ++ name) = before ++ [l ++ opening ++ name] :=
        Text.lines_append hopen (Text.lines_eq_singleton hsingle)
      have hall := Text.lines_append hupto hclose
      simpa using hall
    rcases unlines_normalLines_of_oneLine before after l name r others with ⟨tail', htext⟩
    refine ⟨_, tail', ?_, hlead'⟩
    rw [hlines, htext, plainName_of_lines_singleton hsingle]
  · have hlines : Text.lines (lead ++ (opening ++ (name ++ ')' :: tail))) =
        before ++ (l ++ (opening ++ first)) :: (inner ++ (last ++ ')' :: r) :: after) := by
      have hupto : Text.lines (lead ++ opening ++ name) =
          (before ++ (l ++ opening ++ first) :: inner) ++ [last] := by
        rw [Text.lines_append hopen hname]
        simp
      have hall := Text.lines_append hupto hclose
      simpa using hall
    rcases unlines_normalLines_of_manyLines before inner after l first last r others with
      ⟨tail', htext⟩
    refine ⟨_, tail', ?_, hlead'⟩
    rw [hlines, htext, plainName_of_lines hname]

/-- The plain text of a comment with a marker, whatever comments follow it, begins with a marker of
the same name but for blanks and blank lines inside it. -/
theorem read?_plainText {raw : Text} {m : Marker} (h : read? raw = some m) (others : List Text) :
    ∃ body, read? (Comment.plainText (raw :: others)) = some ⟨plainName m.name, body⟩ := by
  rcases read?_eq_some_iff.mp h with ⟨lead, rest, hraw, hlead, hne, hname, -⟩
  rcases Comment.inner?_of_marked hlead m.name rest with
    ⟨said, saidRest, hinner, hsaid⟩
  rcases unlines_normalLines_of_marked hsaid m.name saidRest
    (others.flatMap Comment.contentLines) with ⟨plain, plainRest, htext, hplain⟩
  have hcontent : Comment.contentLines raw =
      (Text.lines (said ++ (opening ++ (m.name ++ ')' :: saidRest)))).map Text.trimEnd := by
    rw [hraw, Comment.contentLines, hinner]
  have hplainText : Comment.plainText (raw :: others) =
      plain ++ (opening ++ (plainName m.name ++ ')' :: (plainRest ++ ['\n']))) := by
    rw [Comment.plainText, List.flatMap_cons, hcontent]
    split
    · next hnil =>
        rw [hnil] at htext
        exact absurd htext (by simp [opening_ne_nil])
    · rw [htext]
      simp
  refine ⟨withoutColon (plainRest ++ ['\n']), ?_⟩
  exact read?_eq_some_iff.mpr ⟨plain, plainRest ++ ['\n'], hplainText, hplain,
    plainName_ne_nil hne, parenthesis_not_mem_plainName hname, rfl⟩

end Marker
end EndpointDocs
