import EndpointDocs.Proofs.Block.Marker
import EndpointDocs.Proofs.Block.Outcomes
import EndpointDocs.Proofs.Block.PlainMarker
import EndpointDocs.Proofs.Comment.Content
import EndpointDocs.Proofs.Section.BlankEnds

/-!
# Blocks written as comments

A block is a name and lines below it.  It is written either as a line comment for each line or as
one block comment, and comes to the same in both styles: the plain text is the marker with the lines
below it, without the blanks at their ends and without the blank lines that stand behind another
or at the end.
-/

namespace EndpointDocs
namespace Block

inductive Style where
  | line | block
deriving DecidableEq, Repr

/-- A block as it is meant: a name and the lines below the marker. -/
structure Written where
  name : Text
  lines : List Text
deriving DecidableEq, Repr

namespace Written

def marker (b : Written) : Text :=
  Marker.opening ++ (b.name ++ [')'])

def comments (b : Written) : Style → List Text
  | .line => (b.marker :: b.lines).map fun l => '/' :: '/' :: ' ' :: l
  | .block =>
      ['/' :: '*' :: '\n' :: (b.marker ++ '\n' :: (Text.unlines b.lines ++ ['\n', '*', '/']))]

/-- The lines without the blanks at their ends, and with one blank line for each run of them. -/
def body (b : Written) : Text :=
  Text.unlines (Comment.squeeze false (b.lines.map Text.trimEnd))

def isBlank (b : Written) : Bool :=
  b.lines.all Text.allBlank

def outcome (b : Written) : Outcome :=
  if b.isBlank then .empty b.name
  else
    match Endpoint.ofBody b.name b.body with
    | .ok e => .documented e
    | .error error => .malformed b.name error

/-- The blocks that can be written as comments: no line below the marker begins with another. -/
structure IsWritable (b : Written) : Prop where
  name_ne_nil : b.name ≠ []
  name_closed : ')' ∉ b.name
  name_line : '\n' ∉ b.name
  lines_line : ∀ l ∈ b.lines, '\n' ∉ l
  lines_unmarked : ∀ l ∈ b.lines, Marker.read? l = none

instance (b : Written) : Decidable b.IsWritable :=
  decidable_of_iff (b.name ≠ [] ∧ ')' ∉ b.name ∧ '\n' ∉ b.name ∧ (∀ l ∈ b.lines, '\n' ∉ l) ∧
    ∀ l ∈ b.lines, Marker.read? l = none)
    ⟨fun ⟨hne, hclosed, hname, hlines, hunmarked⟩ => ⟨hne, hclosed, hname, hlines, hunmarked⟩,
      fun ⟨hne, hclosed, hname, hlines, hunmarked⟩ => ⟨hne, hclosed, hname, hlines, hunmarked⟩⟩

/-!
# Marked comments
-/

theorem isMarked_append_marker {b : Written} (h : b.IsWritable) (lead rest : Text)
    (hlead : ∀ c ∈ lead, Marker.isLeading c = true) :
    isMarked (lead ++ (b.marker ++ rest)) = true := by
  have hmarker : Marker.read? (lead ++ (b.marker ++ rest)) =
      some ⟨b.name, Marker.withoutColon rest⟩ := by
    rw [Marker.read?_eq_some_iff]
    refine ⟨lead, rest, ?_, hlead, h.name_ne_nil, h.name_closed, rfl⟩
    simp [marker]
  rw [isMarked, hmarker]
  rfl

theorem isMarked_lineComment {l : Text} (h : Marker.read? l = none) :
    isMarked ('/' :: '/' :: ' ' :: l) = false := by
  have hread : Marker.read? ('/' :: '/' :: ' ' :: l) = Marker.read? l := by
    rfl
  rw [isMarked, hread, h]
  rfl

theorem ofGroup_of_marked {raw : Text} {rest : List Text} (hraw : isMarked raw = true)
    (hrest : ∀ other ∈ rest, isMarked other = false) : ofGroup (raw :: rest) = [raw :: rest] := by
  have htake : (rest.takeWhile fun r => !isMarked r) = rest := by
    rw [List.takeWhile_eq_self_iff]
    intro other hother
    rw [hrest other hother]
    rfl
  have hnone : ofGroup rest = [] := by
    clear htake
    induction rest with
    | nil =>
        rfl
    | cons other later ih =>
        rw [ofGroup, hrest other (by simp), if_neg Bool.false_ne_true]
        exact ih fun x hx => hrest x (by simp [hx])
  rw [ofGroup, if_pos hraw, htake, hnone]

theorem ofGroup_comments {b : Written} (h : b.IsWritable) (style : Style) :
    ofGroup (b.comments style) = [b.comments style] := by
  cases style with
  | line =>
      have hmarked := isMarked_append_marker h ['/', '/', ' '] []
        (List.all_eq_true.mp (by decide))
      rw [List.append_nil] at hmarked
      apply ofGroup_of_marked hmarked
      intro other hother
      rcases List.mem_map.mp hother with ⟨l, hl, rfl⟩
      exact isMarked_lineComment (h.lines_unmarked l hl)
  | block =>
      apply ofGroup_of_marked
      · exact isMarked_append_marker h ['/', '*', '\n'] _ (List.all_eq_true.mp (by decide))
      · intro other hother
        cases hother

/-!
# Plain text of both styles
-/

/-- The lines below the marker that the plain text keeps. -/
def kept (b : Written) : List Text :=
  Text.dropEndWhile List.isEmpty (Comment.squeeze false (b.lines.map Text.trimEnd))

theorem marker_ne_nil (b : Written) : b.marker ≠ [] := by
  simp [marker]

theorem trimEnd_marker (b : Written) : Text.trimEnd b.marker = b.marker := by
  rw [marker, ← List.append_assoc]
  exact Text.trimEnd_append_cons (by decide) _ _

theorem lineFeed_not_mem_marker {b : Written} (h : b.IsWritable) : '\n' ∉ b.marker := by
  rw [marker, List.mem_append, List.mem_append]
  rintro (hopening | hname | hclosing)
  · exact absurd hopening (by decide)
  · exact h.name_line hname
  · exact absurd hclosing (by decide)

theorem map_trimEnd_lines_unlines {ls : List Text} (h : ∀ l ∈ ls, '\n' ∉ l) :
    ∃ tail, (Text.lines (Text.unlines ls ++ ['\n'])).map Text.trimEnd =
      ls.map Text.trimEnd ++ tail ∧ ∀ l ∈ tail, l = [] := by
  cases ls with
  | nil =>
      exact ⟨[[], []], rfl, by simp⟩
  | cons l rest =>
      refine ⟨[[]], ?_, by simp⟩
      rw [Text.lines_append_lineFeed, Text.lines_unlines h (by simp), List.map_append]
      rfl

theorem normalLines_comments {b : Written} (h : b.IsWritable) (style : Style) :
    Comment.normalLines ((b.comments style).flatMap Comment.contentLines) =
      b.marker :: b.kept := by
  cases style with
  | line =>
      have hlines : ∀ l ∈ b.marker :: b.lines, '\n' ∉ l := by
        intro l hl
        rcases List.mem_cons.mp hl with rfl | hl
        · exact lineFeed_not_mem_marker h
        · exact h.lines_line l hl
      have hnormal := Comment.normalLines_of_empty_ends b.marker_ne_nil []
        (b.lines.map Text.trimEnd) [] (by simp) (by simp)
      rw [List.append_nil, List.nil_append] at hnormal
      have hcontent : (b.comments .line).flatMap Comment.contentLines =
          (b.marker :: b.lines).map Text.trimEnd :=
        Comment.flatMap_contentLines_ofLine hlines
      rw [hcontent, List.map_cons, trimEnd_marker, hnormal]
      rfl
  | block =>
      rcases map_trimEnd_lines_unlines h.lines_line with ⟨tail, hbelow, htail⟩
      have hlines : Text.lines ('\n' :: (b.marker ++ '\n' :: (Text.unlines b.lines ++ ['\n']))) =
          [] :: b.marker :: Text.lines (Text.unlines b.lines ++ ['\n']) := by
        rw [Text.lines_cons_lineFeed, Text.lines_append_lineFeed,
          Text.lines_eq_singleton (lineFeed_not_mem_marker h)]
        rfl
      have hcontent := Comment.contentLines_enclosed
        ('\n' :: (b.marker ++ '\n' :: (Text.unlines b.lines ++ ['\n'])))
      rw [hlines, List.map_cons, List.map_cons, hbelow, trimEnd_marker] at hcontent
      have hnormal := Comment.normalLines_of_empty_ends b.marker_ne_nil [[]]
        (b.lines.map Text.trimEnd) tail (by simp) htail
      have hcomment : b.comments .block = ['/' :: '*' ::
          (('\n' :: (b.marker ++ '\n' :: (Text.unlines b.lines ++ ['\n']))) ++ ['*', '/'])] := by
        simp [comments]
      rw [hcomment, List.flatMap_singleton, hcontent]
      exact hnormal

/-!
# What both styles come to
-/

theorem read?_plainText_comments {b : Written} (h : b.IsWritable) (style : Style) :
    Marker.read? (Comment.plainText (b.comments style)) =
      some ⟨b.name, Text.unlines ([] :: (b.kept ++ [[]]))⟩ := by
  have hplain : Comment.plainText (b.comments style) =
      Text.unlines (b.marker :: b.kept) ++ ['\n'] :=
    Comment.plainText_of_normalLines (by simp) (normalLines_comments h style)
  have hlines : Text.unlines (b.marker :: b.kept) ++ ['\n'] =
      b.marker ++ Text.unlines ([] :: (b.kept ++ [[]])) := by
    have hlast : Text.unlines ((b.marker :: b.kept) ++ [[]]) =
        Text.unlines (b.marker :: b.kept) ++ ['\n'] :=
      Text.unlines_append (by simp) (by simp)
    rw [← hlast, ← Text.unlines_append_cons, List.append_nil, List.cons_append]
  rw [hplain, hlines, Marker.read?_eq_some_iff]
  refine ⟨[], Text.unlines ([] :: (b.kept ++ [[]])), ?_, by simp, h.name_ne_nil, h.name_closed, ?_⟩
  · simp [marker]
  · rw [Text.unlines_cons (by simp)]
    rfl

theorem exists_eq_kept_append (b : Written) :
    ∃ back, Comment.squeeze false (b.lines.map Text.trimEnd) = b.kept ++ back ∧
      ∀ l ∈ back, l = [] := by
  rcases Text.exists_eq_dropEndWhile_append List.isEmpty
    (Comment.squeeze false (b.lines.map Text.trimEnd)) with ⟨back, hsplit, hback⟩
  exact ⟨back, hsplit, fun l hl => List.isEmpty_iff.mp (hback l hl)⟩

theorem lineFeed_not_mem_of_mem_kept {b : Written} (h : b.IsWritable) {l : Text}
    (hl : l ∈ b.kept) : '\n' ∉ l := by
  rcases List.mem_map.mp (Comment.mem_of_mem_squeeze (Text.mem_of_mem_dropEndWhile hl)) with
    ⟨x, hx, rfl⟩
  exact fun hmem => h.lines_line x hx (Text.mem_of_mem_trimEnd hmem)

theorem ofBody_kept {b : Written} (h : b.IsWritable) :
    Endpoint.ofBody b.name (Text.unlines ([] :: (b.kept ++ [[]]))) =
      Endpoint.ofBody b.name b.body := by
  rcases b.exists_eq_kept_append with ⟨back, hbody, hback⟩
  have hkept : ∀ l ∈ b.kept, '\n' ∉ l := fun l hl => lineFeed_not_mem_of_mem_kept h hl
  have hends := Endpoint.ofBody_of_empty_ends b.name [[]] [[]] hkept (by simp) (by simp)
  have hbelow := Endpoint.ofBody_of_empty_ends b.name [] back hkept (by simp) hback
  rw [body, hbody]
  exact hends.trans hbelow.symm

theorem allBlank_kept (b : Written) :
    Text.allBlank (Text.unlines ([] :: (b.kept ++ [[]]))) = b.isBlank := by
  have hkept : Text.allBlank (Text.unlines ([] :: (b.kept ++ [[]]))) =
      b.kept.all Text.allBlank := by
    rw [Text.allBlank_unlines, List.all_cons, List.all_append]
    simp [Text.allBlank]
  rw [hkept, Bool.eq_iff_iff, isBlank, List.all_eq_true, List.all_eq_true]
  constructor
  · intro hall l hl
    by_cases hblank : Text.trimEnd l = []
    · exact Text.trimEnd_eq_nil_iff.mp hblank
    · -- A line that is not empty survives squeezing, and empty lines are dropped behind it only.
      have hmem : Text.trimEnd l ∈ b.lines.map Text.trimEnd := List.mem_map.mpr ⟨l, hl, rfl⟩
      rcases List.append_of_mem hmem with ⟨before, later, hsplit⟩
      have hline : List.isEmpty (Text.trimEnd l) = false := by
        simpa using hblank
      have hstays : Text.trimEnd l ∈ b.kept := by
        rw [kept, hsplit, Comment.squeeze_append_cons hblank,
          Text.dropEndWhile_append_cons hline]
        simp
      rw [← Text.allBlank_trimEnd]
      exact hall _ hstays
  · intro hall l hl
    rcases List.mem_map.mp (Comment.mem_of_mem_squeeze (Text.mem_of_mem_dropEndWhile hl)) with
      ⟨x, hx, rfl⟩
    rw [Text.allBlank_trimEnd]
    exact hall x hx

theorem outcome_comments {b : Written} (h : b.IsWritable) (style : Style) :
    Block.outcome (b.comments style) = b.outcome := by
  rw [Block.outcome, read?_plainText_comments h style]
  simp only [allBlank_kept, ofBody_kept h]
  rfl

end Written
end Block
end EndpointDocs
