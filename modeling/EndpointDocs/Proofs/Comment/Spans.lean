import EndpointDocs.Proofs.Comment.Segments

/-!
# Where comments stand

A comment stands at the bytes that the segments before it take up and those that it takes up itself.
So comments do not overlap, come in the order of their segments, and are what the source has between
their places.  Whatever looks like a comment in a literal is none, and a quote in a comment opens no
literal.
-/

namespace EndpointDocs
namespace Segment

/-!
# Segments in words
-/

/-- Whether code has no quote, begins no comment and does not end with a slash. -/
structure IsCodeText (t : Text) : Prop where
  no_quote : ∀ c ∈ t, c ≠ '"' ∧ c ≠ '\'' ∧ c ≠ Comment.backquote
  no_line : ¬ ['/', '/'] <:+: t
  no_block : ¬ ['/', '*'] <:+: t
  no_slash : t.getLast? ≠ some '/'

theorem IsCodeText.of_cons {c : Char} {rest : Text} (h : IsCodeText (c :: rest)) :
    IsCodeText rest := by
  constructor
  · intro d hd
    exact h.no_quote d (List.mem_cons_of_mem c hd)
  · intro hinfix
    exact h.no_line (List.infix_cons hinfix)
  · intro hinfix
    exact h.no_block (List.infix_cons hinfix)
  · intro hslash
    apply h.no_slash
    rw [List.getLast?_cons, hslash]
    rfl

theorem IsCodeText.cons {c : Char} {rest : Text} (h : IsCodeText rest)
    (hquotes : c ≠ '"' ∧ c ≠ '\'' ∧ c ≠ Comment.backquote)
    (hslash : c = '/' → ∃ d ∈ rest.head?, d ≠ '/' ∧ d ≠ '*') : IsCodeText (c :: rest) := by
  -- both openings begin with a slash, and `hslash` excludes what would have to follow it
  have hapart : ∀ d, d = '/' ∨ d = '*' → ¬ ['/', d] <+: c :: rest := by
    rintro d hd ⟨back, hback⟩
    obtain ⟨rfl, rfl⟩ := List.cons.inj hback
    obtain ⟨e, he, hne, hnestar⟩ := hslash rfl
    obtain rfl := Option.some.inj he
    rcases hd with rfl | rfl
    · exact hne rfl
    · exact hnestar rfl
  constructor
  · exact List.forall_mem_cons.mpr ⟨hquotes, h.no_quote⟩
  · rw [List.infix_cons_iff]
    exact not_or_intro (hapart '/' (Or.inl rfl)) h.no_line
  · rw [List.infix_cons_iff]
    exact not_or_intro (hapart '*' (Or.inr rfl)) h.no_block
  · intro hlast
    cases rest with
    | nil =>
        obtain ⟨d, hd, -⟩ := hslash (Option.some.inj hlast)
        cases hd
    | cons d later =>
        exact h.no_slash hlast

theorem isPlainCode_iff {t : Text} : isPlainCode t = true ↔ IsCodeText t := by
  induction t with
  | nil =>
      refine iff_of_true rfl ⟨nofun, ?_, ?_, nofun⟩
      · simp
      · simp
  | cons c rest ih =>
      by_cases hc : c = '/'
      · subst hc
        rw [isPlainCode, Bool.and_eq_true, ih]
        constructor
        · rintro ⟨hhead, hrest⟩
          refine hrest.cons (by decide) fun _ => ?_
          simpa [Option.any_eq_true] using hhead
        · intro h
          refine ⟨?_, h.of_cons⟩
          cases rest with
          | nil =>
              exact absurd rfl h.no_slash
          | cons d later =>
              have hslash : d ≠ '/' := by
                rintro rfl
                exact h.no_line (List.prefix_append ['/', '/'] later).isInfix
              have hstar : d ≠ '*' := by
                rintro rfl
                exact h.no_block (List.prefix_append ['/', '*'] later).isInfix
              simp [hslash, hstar]
      · rw [isPlainCode]
        · simp only [Bool.and_eq_true, bne_iff_ne, ne_eq, ih]
          constructor
          · rintro ⟨⟨⟨hdouble, hsingle⟩, hback⟩, hrest⟩
            exact hrest.cons ⟨hdouble, hsingle, hback⟩ fun hslash => absurd hslash hc
          · intro h
            obtain ⟨hdouble, hsingle, hback⟩ := h.no_quote c List.mem_cons_self
            exact ⟨⟨⟨hdouble, hsingle⟩, hback⟩, h.of_cons⟩
        · exact hc

theorem isBlockText_iff {t : Text} : isBlockText t = true ↔ ¬ ['*', '/'] <:+: t := by
  constructor
  · rintro h ⟨front, back, rfl⟩
    induction front with
    | nil =>
        cases h
    | cons c rest ih =>
        exact ih (isBlockText_of_cons h)
  · intro h
    rcases exists_closing_or_none t with htext | ⟨text, later, -, rfl⟩
    · exact htext
    · exact absurd ⟨text, later, by simp⟩ h

/-- Whether a segment is what it is called: nothing in it opens or closes anything too early. -/
def IsSpelled : Segment → Prop
  | code t => IsCodeText t
  | literal quote t => (quote = '"' ∨ quote = '\'') ∧ '\n' ∉ t ∧ isLiteralText quote t = true
  | rawString t => Comment.backquote ∉ t
  | line t => '\n' ∉ t
  | block t => ¬ ['*', '/'] <:+: t

instance : (s : Segment) → Decidable s.IsSpelled
  | code _ => decidable_of_iff _ isPlainCode_iff
  | literal quote t =>
      inferInstanceAs (Decidable ((quote = '"' ∨ quote = '\'') ∧ '\n' ∉ t ∧
        isLiteralText quote t = true))
  | rawString t => inferInstanceAs (Decidable (Comment.backquote ∉ t))
  | line t => inferInstanceAs (Decidable ('\n' ∉ t))
  | block _ => decidable_of_iff _ isBlockText_iff

theorem isSpelled_iff {s : Segment} :
    s.IsSpelled ↔ s.IsProper ∧ ∀ quote t, s = literal quote t → '\n' ∉ t := by
  cases s with
  | code t =>
      exact ⟨fun h => ⟨isPlainCode_iff.mpr h, nofun⟩, fun h => isPlainCode_iff.mp h.left⟩
  | block t =>
      exact ⟨fun h => ⟨isBlockText_iff.mpr h, nofun⟩, fun h => isBlockText_iff.mp h.left⟩
  | rawString t =>
      exact ⟨fun h => ⟨h, nofun⟩, And.left⟩
  | line t =>
      exact ⟨fun h => ⟨h, nofun⟩, And.left⟩
  | literal quote t =>
      constructor
      · rintro ⟨hquote, hbreak, htext⟩
        refine ⟨⟨hquote, htext⟩, ?_⟩
        rintro _ _ ⟨rfl, rfl⟩
        exact hbreak
      · rintro ⟨⟨hquote, htext⟩, hbreak⟩
        exact ⟨hquote, hbreak quote t rfl, htext⟩

/-- Whether there is no segment, or code that begins with a line feed is the first. -/
def startsLine : List Segment → Bool
  | [] => true
  | code ('\n' :: _) :: _ => true
  | _ => false

/-- Whether the segments behind every line comment end its line. -/
def linesEnd : List Segment → Bool
  | [] => true
  | line _ :: later => startsLine later && linesEnd later
  | _ :: later => linesEnd later

theorem head?_written_of_startsLine {ss : List Segment} (h : startsLine ss = true) :
    ∀ c ∈ (written ss).head?, c = '\n' := by
  intro c hc
  unfold startsLine at h
  split at h
  · cases hc
  · exact (Option.some.inj hc).symm
  · cases h

theorem isRow_of_isSpelled {ss : List Segment} (hspelled : ∀ s ∈ ss, s.IsSpelled)
    (hlines : linesEnd ss = true) : IsRow [] ss := by
  induction ss with
  | nil =>
      trivial
  | cons s later ih =>
      have hlater : ∀ x ∈ later, x.IsSpelled := fun x hx => hspelled x (List.mem_cons_of_mem s hx)
      have hproper : s.IsProper := (isSpelled_iff.mp (hspelled s List.mem_cons_self)).left
      cases s with
      | line t =>
          rw [linesEnd, Bool.and_eq_true] at hlines
          refine ⟨hproper, ?_, ih hlater hlines.right⟩
          rintro u - c hc
          rw [List.append_nil] at hc
          exact head?_written_of_startsLine hlines.left c hc
      | code | literal | rawString | block =>
          exact ⟨hproper, nofun, ih hlater hlines⟩

/-!
# Places of comments
-/

theorem map_text_found (pos : Nat) (ss : List Segment) :
    (found pos ss).map Comment.text = (ss.filter isComment).map text := by
  induction ss generalizing pos with
  | nil =>
      rfl
  | cons s later ih =>
      rw [found, List.map_append, ih, comments]
      cases hs : s.isComment with
      | true =>
          rw [if_pos rfl, List.filter_cons_of_pos hs]
          rfl
      | false =>
          rw [if_neg Bool.false_ne_true, List.filter_cons_of_neg (by simp [hs])]
          rfl

theorem exists_segment_of_mem_found {pos : Nat} {ss : List Segment} {c : Comment}
    (h : c ∈ found pos ss) :
    ∃ front s back, ss = front ++ s :: back ∧ s.isComment = true ∧
      c.start = pos + Text.byteLength (written front) ∧
        c.stop = c.start + Text.byteLength s.text ∧ c.text = s.text := by
  induction ss generalizing pos with
  | nil =>
      cases h
  | cons s later ih =>
      rw [found, List.mem_append] at h
      rcases h with hs | hlater
      · rw [comments] at hs
        split at hs
        · next hcomment =>
            obtain rfl := List.mem_singleton.mp hs
            exact ⟨[], s, later, rfl, hcomment, rfl, rfl, rfl⟩
        · cases hs
      · obtain ⟨front, x, back, rfl, hx, hstart, hstop, htext⟩ := ih hlater
        refine ⟨s :: front, x, back, rfl, hx, ?_, hstop, htext⟩
        rw [hstart, written_cons, Text.byteLength_append, Nat.add_assoc]

theorem pairwise_found (pos : Nat) (ss : List Segment) :
    (found pos ss).Pairwise fun c d => c.stop ≤ d.start := by
  induction ss generalizing pos with
  | nil =>
      exact List.Pairwise.nil
  | cons s later ih =>
      rw [found, List.pairwise_append]
      refine ⟨?_, ih _, ?_⟩
      · rw [comments]
        split
        · exact List.pairwise_singleton _ _
        · exact List.Pairwise.nil
      · intro c hc d hd
        obtain ⟨front, x, back, -, -, hstart, -, -⟩ := exists_segment_of_mem_found hd
        rw [comments] at hc
        split at hc
        · obtain rfl := List.mem_singleton.mp hc
          rw [hstart]
          exact Nat.le_add_right _ _
        · cases hc

theorem byteLength_text_pos {s : Segment} (h : s.isComment = true) :
    0 < Text.byteLength s.text := by
  have hslash := Char.utf8Size_pos '/'
  cases s with
  | line t =>
      exact Nat.add_pos_left hslash _
  | block t =>
      exact Nat.add_pos_left hslash _
  | code t =>
      cases h
  | literal quote t =>
      cases h
  | rawString t =>
      cases h

end Segment

namespace Comment

/-- Whether a comment is what a source has at its place, in characters and in bytes. -/
structure StandsIn (source : Text) (c : Comment) : Prop where
  start_lt_stop : c.start < c.stop
  slice : Text.slice? source c.start c.stop = some c.text
  bytes : ((Text.encode source).drop c.start).take (c.stop - c.start) = Text.encode c.text

theorem standsIn_of_mem_found {ss : List Segment} {c : Comment} (h : c ∈ Segment.found 0 ss) :
    c.StandsIn (Segment.written ss) := by
  obtain ⟨front, s, back, rfl, hs, hstart, hstop, htext⟩ := Segment.exists_segment_of_mem_found h
  rw [Nat.zero_add] at hstart
  have hlength : c.stop - c.start = Text.byteLength s.text := by
    rw [hstop, Nat.add_sub_cancel_left]
  rw [Segment.written_append, Segment.written_cons]
  constructor
  · rw [hstop]
    exact Nat.lt_add_of_pos_right (Segment.byteLength_text_pos hs)
  · rw [hstop, hstart, htext]
    exact Text.slice?_append _ _ _
  · rw [hlength, hstart, htext]
    exact Text.bytes_append _ _ _

theorem exactly_the_comment_segments {ss : List Segment} (hspelled : ∀ s ∈ ss, s.IsSpelled)
    (hlines : Segment.linesEnd ss = true) :
    ofSource (Segment.written ss) = Segment.found 0 ss ∧
      (ofSource (Segment.written ss)).map text = (ss.filter Segment.isComment).map Segment.text ∧
      (∀ c ∈ ofSource (Segment.written ss), c.StandsIn (Segment.written ss)) ∧
      (ofSource (Segment.written ss)).Pairwise fun c d => c.stop ≤ d.start := by
  rw [ofSource_written (Segment.isRow_of_isSpelled hspelled hlines)]
  refine ⟨rfl, Segment.map_text_found 0 ss, ?_, Segment.pairwise_found 0 ss⟩
  intro c hc
  exact standsIn_of_mem_found hc

/-- Segments of every kind, with quotes in comments and what looks like comments in literals. -/
def mixed : List Segment :=
  [.code "package é\n".toList, .block "\"".toList, .literal '"' "// \\\" /*".toList,
    .rawString "*/ '".toList, .literal '\'' "\\'".toList, .code "\n".toList,
    .line " it's\r".toList, .code "\n\t".toList, .block "/ ` *".toList]

theorem exactly_the_comment_segments_mixed :
    (∀ s ∈ mixed, s.IsSpelled) ∧ Segment.linesEnd mixed = true ∧
      ofSource (Segment.written mixed) =
        [⟨11, 16, "/*\"*/".toList⟩, ⟨37, 45, "// it's\r".toList⟩, ⟨47, 56, "/*/ ` **/".toList⟩] := by
  have hspelled : ∀ s ∈ mixed, s.IsSpelled := by
    decide +kernel
  have hlines : Segment.linesEnd mixed = true := rfl
  obtain ⟨hfound, -⟩ := exactly_the_comment_segments hspelled hlines
  refine ⟨hspelled, hlines, ?_⟩
  rw [hfound]
  decide +kernel

end Comment
end EndpointDocs
