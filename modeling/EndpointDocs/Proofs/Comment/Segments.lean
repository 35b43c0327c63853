import EndpointDocs.Comment.Discovery
import EndpointDocs.Proofs.Text.Places
import Mathlib.Data.List.Basic

/-!
# Sources in segments

A source is a row of segments: code, literals, raw strings and comments.  Reading a segment from its
start leads to its end and finds a comment if the segment is one, so the comments of the source are
the segments that are comments, each with the bytes at which it stands.

## Ends of line comments

A line comment has no closing delimiter.  It ends where the source does or before a line feed, so
what stands behind it must be one of the two.
-/

namespace EndpointDocs

/-- A piece of a source.  The text is what stands between the delimiters. -/
inductive Segment where
  | code (t : Text)
  | literal (quote : Char) (t : Text)
  | rawString (t : Text)
  | line (t : Text)
  | block (t : Text)
deriving DecidableEq, Repr

namespace Segment

def text : Segment → Text
  | code t => t
  | literal quote t => quote :: (t ++ [quote])
  | rawString t => Comment.backquote :: (t ++ [Comment.backquote])
  | line t => '/' :: '/' :: t
  | block t => '/' :: '*' :: (t ++ ['*', '/'])

def isComment : Segment → Bool
  | line _ | block _ => true
  | _ => false

/-- Whether code begins no comment and no literal, and does not leave a slash at its end. -/
def isPlainCode : Text → Bool
  | [] => true
  | '/' :: rest => rest.head?.any (fun c => c != '/' && c != '*') && isPlainCode rest
  | c :: rest => c != '"' && c != '\'' && c != Comment.backquote && isPlainCode rest

/-- Whether no quote inside a literal closes it; a backslash takes the next character with it. -/
def isLiteralText (quote : Char) : Text → Bool
  | [] => true
  | '\\' :: rest =>
      match rest with
      | [] => false
      | _ :: later => isLiteralText quote later
  | c :: rest => c != quote && isLiteralText quote rest

/-- Whether the closing delimiter of block comments stands nowhere in a text. -/
def isBlockText : Text → Bool
  | '*' :: '/' :: _ => false
  | [] => true
  | _ :: rest => isBlockText rest

/-- The segments that are read as what they are. -/
def IsProper : Segment → Prop
  | code t => isPlainCode t = true
  | literal quote t => (quote = '"' ∨ quote = '\'') ∧ isLiteralText quote t = true
  | rawString t => Comment.backquote ∉ t
  | line t => '\n' ∉ t
  | block t => isBlockText t = true

instance : (s : Segment) → Decidable s.IsProper
  | code t => inferInstanceAs (Decidable (isPlainCode t = true))
  | literal quote t =>
      inferInstanceAs (Decidable ((quote = '"' ∨ quote = '\'') ∧ isLiteralText quote t = true))
  | rawString t => inferInstanceAs (Decidable (Comment.backquote ∉ t))
  | line t => inferInstanceAs (Decidable ('\n' ∉ t))
  | block t => inferInstanceAs (Decidable (isBlockText t = true))

/-- Whether the text behind a segment leaves it as it is. -/
def EndsBefore (s : Segment) (rest : Text) : Prop :=
  ∀ t, s = line t → ∀ c ∈ rest.head?, c = '\n'

/-- The comment that a segment is, if it begins at the byte `pos`. -/
def comments (s : Segment) (pos : Nat) : List Comment :=
  if s.isComment then [⟨pos, pos + Text.byteLength s.text, s.text⟩] else []

def written (ss : List Segment) : Text :=
  ss.flatMap text

/-- Whether segments, with a text behind the last one, are read as what they are. -/
def IsRow (rest : Text) : List Segment → Prop
  | [] => True
  | s :: later => s.IsProper ∧ s.EndsBefore (written later ++ rest) ∧ IsRow rest later

/-- Whether segments are code and literals only. -/
def IsPlain (ss : List Segment) : Prop :=
  ∀ s ∈ ss, s.isComment = false ∧ s.IsProper

instance (ss : List Segment) : Decidable (IsPlain ss) :=
  inferInstanceAs (Decidable (∀ s ∈ ss, s.isComment = false ∧ s.IsProper))

/-- The comments among segments of which the first begins at the byte `pos`. -/
def found (pos : Nat) : List Segment → List Comment
  | [] => []
  | s :: later => s.comments pos ++ found (pos + Text.byteLength s.text) later

/-!
# Rows of segments
-/

@[simp] theorem written_nil : written [] = [] := rfl

theorem written_cons (s : Segment) (later : List Segment) :
    written (s :: later) = s.text ++ written later := by
  rw [written, List.flatMap_cons, written]

theorem written_append (front back : List Segment) :
    written (front ++ back) = written front ++ written back := by
  rw [written, List.flatMap_append, written, written]

theorem isRow_append {rest : Text} {front back : List Segment} :
    IsRow rest (front ++ back) ↔ IsRow (written back ++ rest) front ∧ IsRow rest back := by
  induction front with
  | nil =>
      simp [IsRow]
  | cons s later ih =>
      rw [List.cons_append, IsRow, IsRow, ih, written_append, List.append_assoc]
      simp only [and_assoc]

theorem found_append (pos : Nat) (front back : List Segment) :
    found pos (front ++ back) =
      found pos front ++ found (pos + Text.byteLength (written front)) back := by
  induction front generalizing pos with
  | nil =>
      rfl
  | cons s later ih =>
      rw [List.cons_append, found, found, ih, written_cons, Text.byteLength_append, Nat.add_assoc,
        List.append_assoc]

theorem IsPlain.found_eq_nil {ss : List Segment} (h : IsPlain ss) (pos : Nat) :
    found pos ss = [] := by
  induction ss generalizing pos with
  | nil =>
      rfl
  | cons s later ih =>
      have hs : s.isComment = false := (h s (by simp)).left
      rw [found, comments, hs, ih (fun x hx => h x (by simp [hx]))]
      rfl

theorem IsPlain.isRow {ss : List Segment} (h : IsPlain ss) (rest : Text) : IsRow rest ss := by
  induction ss with
  | nil =>
      trivial
  | cons s later ih =>
      rcases h s (by simp) with ⟨hs, hproper⟩
      refine ⟨hproper, ?_, ih fun x hx => h x (by simp [hx])⟩
      intro t ht
      rw [ht] at hs
      cases hs

theorem isBlockText_of_cons {c : Char} {t : Text} (h : isBlockText (c :: t) = true) :
    isBlockText t = true := by
  rw [isBlockText] at h
  · exact h
  · intro others hc hothers
    rw [hc, hothers] at h
    cases h

/-- A character that is no part of a closing delimiter keeps two texts apart. -/
theorem isBlockText_append_cons {c : Char} (hstar : c ≠ '*') (hslash : c ≠ '/') (a b : Text) :
    isBlockText (a ++ c :: b) = (isBlockText a && isBlockText b) := by
  induction a using isBlockText.induct with
  | case1 later =>
      rfl
  | case2 =>
      rw [List.nil_append, isBlockText, isBlockText, Bool.true_and]
      intro rest hc
      exact absurd hc hstar
  | case3 d later hd ih =>
      have hclosing : ∀ rest, d = '*' → later ++ c :: b = '/' :: rest → False := by
        intro rest hstar' heq
        cases later with
        | nil =>
            injection heq with hc
            exact hslash hc
        | cons e others =>
            injection heq with he
            exact hd others hstar' (by rw [he])
      rw [List.cons_append, isBlockText, isBlockText, ih]
      · exact hd
      · exact hclosing

/-- A text has no closing delimiter, or it has a first one. -/
theorem exists_closing_or_none (t : Text) :
    isBlockText t = true ∨
      ∃ text later, isBlockText text = true ∧ t = text ++ '*' :: '/' :: later := by
  induction t using isBlockText.induct with
  | case1 rest =>
      exact Or.inr ⟨[], rest, rfl, rfl⟩
  | case2 =>
      exact Or.inl rfl
  | case3 c rest hc ih =>
      rcases ih with hnone | ⟨text, later, htext, hrest⟩
      · left
        rw [isBlockText]
        · exact hnone
        · exact hc
      · refine Or.inr ⟨c :: text, later, ?_, by rw [hrest]; rfl⟩
        rw [isBlockText]
        · exact htext
        · intro more hstar heq
          exact hc (more ++ '*' :: '/' :: later) hstar (by rw [hrest, heq]; rfl)

end Segment

namespace Comment

/-!
# Single characters
-/

/-- A character of code that begins no comment. -/
theorem scan_code_of_not_opening {c : Char} {rest : Text}
    (h : c = '/' → rest.head? ≠ some '/' ∧ rest.head? ≠ some '*') (pos : Nat) :
    scan .code pos (c :: rest) = scan (.afterCode c) (pos + c.utf8Size) rest := by
  rw [scan]
  · intro rest' hc heq
    rw [heq] at h
    exact (h hc).left rfl
  · intro rest' hc heq
    rw [heq] at h
    exact (h hc).right rfl

theorem scan_slash {c : Char} (hslash : c ≠ '/') (hstar : c ≠ '*') (pos : Nat) (rest : Text) :
    scan .code pos ('/' :: c :: rest) = scan .code (pos + '/'.utf8Size) (c :: rest) :=
  scan_code_of_not_opening (fun _ => ⟨by simpa using hslash, by simpa using hstar⟩) pos

theorem scan_code {c : Char} (h : c ≠ '/') (pos : Nat) (rest : Text) :
    scan .code pos (c :: rest) = scan (.afterCode c) (pos + c.utf8Size) rest :=
  scan_code_of_not_opening (fun hc => absurd hc h) pos

theorem scan_block {c : Char} {rest : Text} (h : c = '*' → rest.head? ≠ some '/')
    (start pos : Nat) (read : Text) :
    scan (.blockComment start read) pos (c :: rest) =
      scan (.blockComment start (c :: read)) (pos + c.utf8Size) rest := by
  rw [scan]
  intro rest' hc heq
  rw [heq] at h
  exact h hc rfl

theorem scan_lineFeed (pos : Nat) (rest : Text) :
    scan .code pos ('\n' :: rest) = scan .code (pos + 1) rest :=
  scan_code (by decide) pos rest

theorem scan_literal (quote c : Char) (pos : Nat) (rest : Text) :
    scan (.literal quote) pos (c :: rest) =
      scan (.afterLiteral quote c) (pos + c.utf8Size) rest :=
  rfl

theorem scan_rawString (c : Char) (pos : Nat) (rest : Text) :
    scan .rawString pos (c :: rest) =
      scan (if c = backquote then .code else .rawString) (pos + c.utf8Size) rest :=
  rfl

theorem scan_lineComment (start : Nat) (read : Text) (c : Char) (pos : Nat) (rest : Text) :
    scan (.lineComment start read) pos (c :: rest) =
      if c = '\n' then ⟨start, pos, read.reverse⟩ :: scan .code (pos + 1) rest
      else scan (.lineComment start (c :: read)) (pos + c.utf8Size) rest :=
  rfl

theorem scan_closing (start : Nat) (read : Text) (pos : Nat) (rest : Text) :
    scan (.blockComment start read) pos ('*' :: '/' :: rest) =
      ⟨start, pos + 2, ('/' :: '*' :: read).reverse⟩ :: scan .code (pos + 2) rest :=
  rfl

/-!
# Whole segments
-/

theorem afterCode_of_plain {c : Char} (hdouble : c ≠ '"') (hsingle : c ≠ '\'')
    (hback : c ≠ backquote) : Place.afterCode c = .code := by
  rw [Place.afterCode, if_neg (by simp [hdouble, hsingle]), if_neg hback]

theorem scan_plainCode {t : Text} (h : Segment.isPlainCode t = true) (pos : Nat) (rest : Text) :
    scan .code pos (t ++ rest) = scan .code (pos + Text.byteLength t) rest := by
  induction t generalizing pos with
  | nil =>
      rfl
  | cons c later ih =>
      rw [Text.byteLength_cons, ← Nat.add_assoc, List.cons_append]
      by_cases hc : c = '/'
      · subst hc
        rw [Segment.isPlainCode, Bool.and_eq_true] at h
        cases later with
        | nil =>
            cases h.left
        | cons d others =>
            have hd : d ≠ '/' ∧ d ≠ '*' := by
              simpa using h.left
            rw [List.cons_append, scan_slash hd.left hd.right]
            exact ih h.right _
      · rw [Segment.isPlainCode] at h
        · simp only [Bool.and_eq_true, bne_iff_ne, ne_eq] at h
          rcases h with ⟨⟨⟨hdouble, hsingle⟩, hback⟩, hlater⟩
          rw [scan_code hc, afterCode_of_plain hdouble hsingle hback]
          exact ih hlater _
        · exact hc

theorem scan_literalText {quote : Char} (hquote : quote ≠ '\\') {t : Text}
    (h : Segment.isLiteralText quote t = true) (pos : Nat) (rest : Text) :
    scan (.literal quote) pos (t ++ quote :: rest) =
      scan .code (pos + Text.byteLength (t ++ [quote])) rest := by
  induction t using Segment.isLiteralText.induct generalizing pos with
  | case1 =>
      rw [List.nil_append, scan_literal, Place.afterLiteral, if_neg hquote, if_pos rfl]
      rfl
  | case2 =>
      cases h
  | case3 c later ih =>
      have hlength : pos + '\\'.utf8Size + c.utf8Size + Text.byteLength (later ++ [quote]) =
          pos + Text.byteLength ('\\' :: c :: later ++ [quote]) := by
        simp only [List.cons_append, Text.byteLength_cons]
        omega
      rw [← hlength]
      exact ih h _
  | case4 c later hc ih =>
      rw [Segment.isLiteralText] at h
      · simp only [Bool.and_eq_true, bne_iff_ne, ne_eq] at h
        have hlength : pos + c.utf8Size + Text.byteLength (later ++ [quote]) =
            pos + Text.byteLength (c :: later ++ [quote]) := by
          simp only [List.cons_append, Text.byteLength_cons]
          omega
        rw [← hlength, List.cons_append, scan_literal, Place.afterLiteral, if_neg hc, if_neg h.left]
        exact ih h.right _
      · exact hc

theorem scan_rawText {t : Text} (h : backquote ∉ t) (pos : Nat) (rest : Text) :
    scan .rawString pos (t ++ backquote :: rest) =
      scan .code (pos + Text.byteLength (t ++ [backquote])) rest := by
  induction t generalizing pos with
  | nil =>
      rw [List.nil_append, scan_rawString, if_pos rfl]
      rfl
  | cons c later ih =>
      have hc : c ≠ backquote := fun heq => h (by simp [heq])
      have hlater : backquote ∉ later := fun hmem => h (by simp [hmem])
      rw [List.cons_append, scan_rawString, if_neg hc, ih hlater, List.cons_append,
        Text.byteLength_cons, Nat.add_assoc]

theorem scan_lineText {t : Text} (h : '\n' ∉ t) {rest : Text} (hrest : ∀ c ∈ rest.head?, c = '\n')
    (start pos : Nat) (read : Text) :
    scan (.lineComment start read) pos (t ++ rest) =
      ⟨start, pos + Text.byteLength t, read.reverse ++ t⟩ ::
        scan .code (pos + Text.byteLength t) rest := by
  induction t generalizing pos read with
  | nil =>
      cases rest with
      | nil =>
          rw [List.append_nil, List.append_nil]
          rfl
      | cons c later =>
          have hc : c = '\n' := hrest c rfl
          rw [hc, List.nil_append, List.append_nil, Text.byteLength_nil, Nat.add_zero,
            scan_lineFeed, scan_lineComment, if_pos rfl]
  | cons c later ih =>
      have hc : c ≠ '\n' := fun heq => h (by simp [heq])
      have hlater : '\n' ∉ later := fun hmem => h (by simp [hmem])
      rw [List.cons_append, scan_lineComment, if_neg hc, ih hlater, Text.byteLength_cons,
        ← Nat.add_assoc, List.reverse_cons, List.append_assoc, List.singleton_append]

theorem scan_blockText {t : Text} (h : Segment.isBlockText t = true) (start pos : Nat)
    (read rest : Text) :
    scan (.blockComment start read) pos (t ++ '*' :: '/' :: rest) =
      ⟨start, pos + Text.byteLength (t ++ ['*', '/']), read.reverse ++ (t ++ ['*', '/'])⟩ ::
        scan .code (pos + Text.byteLength (t ++ ['*', '/'])) rest := by
  induction t generalizing pos read with
  | nil =>
      have hlength : Text.byteLength ['*', '/'] = 2 := by
        decide
      rw [List.nil_append, List.nil_append, scan_closing, hlength, List.reverse_cons,
        List.reverse_cons, List.append_assoc]
      rfl
  | cons c later ih =>
      have hopen : c = '*' → (later ++ '*' :: '/' :: rest).head? ≠ some '/' := by
        intro hc
        cases later with
        | nil =>
            simp
        | cons d others =>
            intro hd
            injection hd with hd
            rw [hc, hd] at h
            cases h
      have hlater : Segment.isBlockText later = true := Segment.isBlockText_of_cons h
      rw [List.cons_append, scan_block hopen, ih hlater, List.cons_append, Text.byteLength_cons,
        ← Nat.add_assoc, List.reverse_cons, List.append_assoc, List.singleton_append]

/-- A block comment that is not closed is none. -/
theorem scan_unclosed {t : Text} (h : Segment.isBlockText t = true) (start pos : Nat)
    (read : Text) : scan (.blockComment start read) pos t = [] := by
  induction t using Segment.isBlockText.induct generalizing pos read with
  | case1 rest =>
      cases h
  | case2 =>
      rfl
  | case3 c rest hc ih =>
      have hopen : c = '*' → rest.head? ≠ some '/' := fun hstar hhead =>
        hc rest.tail hstar (List.eq_cons_of_mem_head? hhead)
      rw [Segment.isBlockText] at h
      · rw [scan_block hopen]
        exact ih h _ _
      · exact hc

theorem scan_append {s : Segment} (h : s.IsProper) {rest : Text} (hrest : s.EndsBefore rest)
    (pos : Nat) :
    scan .code pos (s.text ++ rest) =
      s.comments pos ++ scan .code (pos + Text.byteLength s.text) rest := by
  cases s with
  | code t =>
      exact scan_plainCode h pos rest
  | literal quote t =>
      rcases h with ⟨hquote, htext⟩
      have hslash : quote ≠ '/' := by
        rcases hquote with rfl | rfl <;> decide
      have hback : quote ≠ '\\' := by
        rcases hquote with rfl | rfl <;> decide
      have hopen : Place.afterCode quote = .literal quote := by
        rw [Place.afterCode, if_pos hquote]
      change scan .code pos (quote :: (t ++ [quote] ++ rest)) = scan .code _ rest
      rw [scan_code hslash, hopen, List.append_assoc, List.singleton_append,
        scan_literalText hback htext, Nat.add_assoc]
      rfl
  | rawString t =>
      change scan .code pos (backquote :: (t ++ [backquote] ++ rest)) = scan .code _ rest
      rw [scan_code (by decide), List.append_assoc, List.singleton_append]
      have hopen : Place.afterCode backquote = .rawString := by
        decide
      rw [hopen, scan_rawText h, Nat.add_assoc]
      rfl
  | line t =>
      have hlength : Text.byteLength ('/' :: '/' :: t) = 2 + Text.byteLength t := by
        have hslash : '/'.utf8Size = 1 := by
          decide
        rw [Text.byteLength_cons, Text.byteLength_cons, hslash, ← Nat.add_assoc]
      change scan .code pos ('/' :: '/' :: (t ++ rest)) =
        ⟨pos, pos + Text.byteLength ('/' :: '/' :: t), '/' :: '/' :: t⟩ ::
          scan .code (pos + Text.byteLength ('/' :: '/' :: t)) rest
      rw [scan, scan_lineText h (hrest t rfl), hlength, Nat.add_assoc]
      rfl
  | block t =>
      have hlength : Text.byteLength ('/' :: '*' :: (t ++ ['*', '/'])) =
          2 + Text.byteLength (t ++ ['*', '/']) := by
        have hslash : '/'.utf8Size = 1 := by
          decide
        have hstar : '*'.utf8Size = 1 := by
          decide
        rw [Text.byteLength_cons, Text.byteLength_cons, hslash, hstar, ← Nat.add_assoc]
      change scan .code pos ('/' :: '*' :: (t ++ ['*', '/'] ++ rest)) =
        ⟨pos, pos + Text.byteLength ('/' :: '*' :: (t ++ ['*', '/'])),
          '/' :: '*' :: (t ++ ['*', '/'])⟩ ::
          scan .code (pos + Text.byteLength ('/' :: '*' :: (t ++ ['*', '/']))) rest
      rw [scan, List.append_assoc, List.cons_append, List.singleton_append, scan_blockText h,
        hlength, Nat.add_assoc]
      rfl

/-!
# Whole sources
-/

theorem scan_written {ss : List Segment} {rest : Text} (h : Segment.IsRow rest ss) (pos : Nat) :
    scan .code pos (Segment.written ss ++ rest) =
      Segment.found pos ss ++ scan .code (pos + Text.byteLength (Segment.written ss)) rest := by
  induction ss generalizing pos with
  | nil =>
      rfl
  | cons s later ih =>
      rcases h with ⟨hs, hbefore, hlater⟩
      rw [Segment.written_cons, List.append_assoc, scan_append hs hbefore, ih hlater,
        Segment.found, Text.byteLength_append, Nat.add_assoc, List.append_assoc]

theorem ofSource_written {ss : List Segment} (h : Segment.IsRow [] ss) :
    ofSource (Segment.written ss) = Segment.found 0 ss := by
  have hscan := scan_written h 0
  rw [List.append_nil] at hscan
  rw [ofSource, hscan]
  exact List.append_nil _

end Comment
end EndpointDocs
