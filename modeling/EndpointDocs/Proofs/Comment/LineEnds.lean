import EndpointDocs.Proofs.Block.LineEnds
import EndpointDocs.Proofs.Comment.Stacks

/-!
# Sources with carriage returns

In a source that gets a carriage return before every line feed, the same comments open and close at
the same places of the text: no carriage return opens or closes anything, and what was a line feed
in a literal, in a comment or in code is now two characters that lead to the same place.  So the
comments of the two sources are the same but for the carriage returns, and the gaps between them are
blank alike and have as many line feeds.
-/

namespace EndpointDocs

open Text (withReturns byteLength)

namespace Comment

/-!
# Code and literals
-/

namespace Place

/-- The places in code, in raw strings and in literals between one of the two quotes. -/
inductive IsOutside : Place → Prop where
  | code : IsOutside .code
  | literal {quote : Char} (h : quote = '"' ∨ quote = '\'') : IsOutside (.literal quote)
  | escaped {quote : Char} (h : quote = '"' ∨ quote = '\'') : IsOutside (.escaped quote)
  | rawString : IsOutside .rawString

/-- The place behind a character outside comments that opens none. -/
def after : Place → Char → Place
  | code, c => afterCode c
  | literal quote, c => afterLiteral quote c
  | escaped quote, _ => literal quote
  | rawString, c => if c = backquote then code else rawString
  | p, _ => p

theorem IsOutside.after {p : Place} (h : p.IsOutside) (c : Char) : (p.after c).IsOutside := by
  cases h with
  | code =>
      by_cases hquote : c = '"' ∨ c = '\''
      · have hafter : Place.code.after c = .literal c := if_pos hquote
        exact hafter ▸ IsOutside.literal hquote
      · have hafter : Place.code.after c = if c = backquote then .rawString else .code :=
          if_neg hquote
        rw [hafter]
        split
        · exact IsOutside.rawString
        · exact IsOutside.code
  | @literal quote hquote =>
      change (afterLiteral quote c).IsOutside
      rw [afterLiteral]
      split
      · exact IsOutside.escaped hquote
      · split
        · exact IsOutside.code
        · exact IsOutside.literal hquote
  | escaped hquote =>
      exact IsOutside.literal hquote
  | rawString =>
      change (if c = backquote then Place.code else Place.rawString).IsOutside
      split
      · exact IsOutside.code
      · exact IsOutside.rawString

theorem after_return {p : Place} (h : p.IsOutside) : (p.after '\r').after '\n' = p.after '\n' := by
  cases h with
  | code =>
      rfl
  | literal hquote =>
      rcases hquote with rfl | rfl <;> rfl
  | escaped hquote =>
      rcases hquote with rfl | rfl <;> rfl
  | rawString =>
      rfl

end Place

/-- Whether a character, with the text behind it, opens a comment at a place. -/
def Opens (p : Place) (c : Char) (rest : Text) : Prop :=
  p = .code ∧ c = '/' ∧ (rest.head? = some '/' ∨ rest.head? = some '*')

theorem opens_withReturns {p : Place} {c : Char} {rest : Text} :
    Opens p c (withReturns rest) ↔ Opens p c rest := by
  rw [Opens, Opens, Text.head?_withReturns_eq_some_iff (by decide) (by decide),
    Text.head?_withReturns_eq_some_iff (by decide) (by decide)]

theorem not_opens_of_ne {c : Char} (h : c ≠ '/') (p : Place) (rest : Text) : ¬ Opens p c rest :=
  fun hopens => h hopens.right.left

theorem scan_after {p : Place} (hp : p.IsOutside) {c : Char} {rest : Text}
    (h : ¬ Opens p c rest) (pos : Nat) :
    scan p pos (c :: rest) = scan (p.after c) (pos + c.utf8Size) rest := by
  cases hp with
  | code =>
      apply scan_code_of_not_opening
      intro hc
      exact ⟨fun hslash => h ⟨rfl, hc, Or.inl hslash⟩, fun hstar => h ⟨rfl, hc, Or.inr hstar⟩⟩
  | literal =>
      rfl
  | escaped =>
      rfl
  | rawString =>
      rfl

/-- Outside comments a line feed leads to the same place with a carriage return before it. -/
theorem scan_after_withReturns {p : Place} (hp : p.IsOutside) {c : Char} {rest : Text}
    (h : ¬ Opens p c rest) (pos : Nat) :
    scan p pos (withReturns (c :: rest)) =
      scan (p.after c) (pos + byteLength (withReturns [c])) (withReturns rest) := by
  by_cases hc : c = '\n'
  · subst hc
    rw [Text.withReturns_cons_lineFeed, scan_after hp (not_opens_of_ne (by decide) _ _),
      scan_after (hp.after '\r') (not_opens_of_ne (by decide) _ _), Place.after_return hp,
      Nat.add_assoc]
    rfl
  · rw [Text.withReturns_cons hc, Text.withReturns_cons hc,
      scan_after hp (mt opens_withReturns.mp h)]
    rfl

/-- From a place outside comments there is no comment in either source, or the next one opens behind
the same text. -/
theorem exists_opening_or_none {p : Place} (hp : p.IsOutside) (t : Text) :
    (∀ pos pos', scan p pos t = [] ∧ scan p pos' (withReturns t) = []) ∨
    ∃ gap mark rest, (mark = '/' ∨ mark = '*') ∧ t = gap ++ '/' :: mark :: rest ∧
      ∀ pos pos', scan p pos t = scan .code (pos + byteLength gap) ('/' :: mark :: rest) ∧
        scan p pos' (withReturns t) =
          scan .code (pos' + byteLength (withReturns gap)) (withReturns ('/' :: mark :: rest)) := by
  induction t generalizing p with
  | nil =>
      refine Or.inl fun pos pos' => ?_
      cases hp <;> exact ⟨rfl, rfl⟩
  | cons c rest ih =>
      by_cases hopens : Opens p c rest
      · rcases hopens with ⟨rfl, rfl, hhead⟩
        have hexists : ∃ mark more, (mark = '/' ∨ mark = '*') ∧ rest = mark :: more := by
          rcases hhead with hslash | hstar
          · exact ⟨'/', rest.tail, Or.inl rfl, List.eq_cons_of_mem_head? hslash⟩
          · exact ⟨'*', rest.tail, Or.inr rfl, List.eq_cons_of_mem_head? hstar⟩
        rcases hexists with ⟨mark, more, hmark, rfl⟩
        exact Or.inr ⟨[], mark, more, hmark, rfl, fun pos pos' => ⟨rfl, rfl⟩⟩
      · rcases ih (hp.after c) with hnone | ⟨gap, mark, more, hmark, hrest, hopening⟩
        · refine Or.inl fun pos pos' => ?_
          rw [scan_after hp hopens, scan_after_withReturns hp hopens]
          exact hnone _ _
        · refine Or.inr ⟨c :: gap, mark, more, hmark, by rw [hrest]; rfl, fun pos pos' => ?_⟩
          have hsplit : withReturns (c :: gap) = withReturns [c] ++ withReturns gap :=
            Text.withReturns_append [c] gap
          rw [scan_after hp hopens, scan_after_withReturns hp hopens, hsplit,
            Text.byteLength_append, Text.byteLength_cons, ← Nat.add_assoc, ← Nat.add_assoc]
          exact hopening _ _

/-!
# Block comments
-/

theorem isBlockText_withReturns (t : Text) :
    Segment.isBlockText (withReturns t) = Segment.isBlockText t := by
  induction t using Segment.isBlockText.induct with
  | case1 rest =>
      rfl
  | case2 =>
      rfl
  | case3 c rest hc ih =>
      have hopen : ∀ later, c = '*' → withReturns rest = '/' :: later → False := by
        intro later hstar heq
        have hhead : (withReturns rest).head? = some '/' := by
          rw [heq]
          rfl
        rw [Text.head?_withReturns_eq_some_iff (by decide) (by decide)] at hhead
        exact hc rest.tail hstar (List.eq_cons_of_mem_head? hhead)
      rw [Segment.isBlockText, ← ih]
      · by_cases hfeed : c = '\n'
        · rw [hfeed, Text.withReturns_cons_lineFeed]
          rfl
        · rw [Text.withReturns_cons hfeed, Segment.isBlockText]
          exact hopen
      · exact hc

/-!
# Comments of both sources
-/

/-- Texts between comments that separate them alike. -/
structure SeparateAlike (gap gap' : Text) : Prop where
  allBlank : Text.allBlank gap' = Text.allBlank gap
  count : gap'.count '\n' = gap.count '\n'

theorem SeparateAlike.refl (gap : Text) : SeparateAlike gap gap :=
  ⟨rfl, rfl⟩

theorem SeparateAlike.append_withReturns {gap gap' : Text} (h : SeparateAlike gap gap')
    (t : Text) : SeparateAlike (gap ++ t) (gap' ++ withReturns t) where
  allBlank := by
    have happend : ∀ a b, Text.allBlank (a ++ b) = (Text.allBlank a && Text.allBlank b) :=
      fun _ _ => List.all_append
    rw [happend, happend, h.allBlank, Text.allBlank_withReturns]
  count := by
    rw [List.count_append, List.count_append, h.count, Text.count_withReturns]

/-- Comments of two sources, behind comments that stop at these two bytes, that are read alike and
separated alike. -/
inductive Matched (source source' : Text) : Nat → Nat → List Comment → List Comment → Prop
  | nil {stop stop' : Nat} : Matched source source' stop stop' [] []
  | cons {stop stop' : Nat} {c c' : Comment} {later later' : List Comment}
      (hadjoins : ∀ first first' : Comment, first.stop = stop → first'.stop = stop' →
        adjoins source' first' c' = adjoins source first c)
      (hraw : Block.ReadsAlike c.text c'.text)
      (hlater : Matched source source' c.stop c'.stop later later') :
      Matched source source' stop stop' (c :: later) (c' :: later')

section Sources

variable {source source' : Text}

/-- Whether reading a text in code, wherever it ends the first source, finds comments that match
those that are found with carriage returns in it. -/
def MatchedFrom (source source' t : Text) : Prop :=
  ∀ front front' gap gap' : Text, SeparateAlike gap gap' → source = front ++ (gap ++ t) →
    source' = front' ++ (gap' ++ withReturns t) →
      Matched source source' (byteLength front) (byteLength front')
        (scan .code (byteLength (front ++ gap)) t)
        (scan .code (byteLength (front' ++ gap')) (withReturns t))

theorem matchedFrom_of_none {t : Text}
    (h : ∀ pos pos', scan .code pos t = [] ∧ scan .code pos' (withReturns t) = []) :
    MatchedFrom source source' t := by
  intro front front' gap gap' _ _ _
  rw [(h _ 0).left, (h 0 _).right]
  exact Matched.nil

/-- Text that opens no comment leads up to the next one. -/
theorem matchedFrom_of_opening {t opening : Text} (skipped : Text) (ht : t = skipped ++ opening)
    (h : ∀ pos pos', scan .code pos t = scan .code (pos + byteLength skipped) opening ∧
      scan .code pos' (withReturns t) =
        scan .code (pos' + byteLength (withReturns skipped)) (withReturns opening))
    (hopening : MatchedFrom source source' opening) : MatchedFrom source source' t := by
  intro front front' gap gap' hgap hsource hsource'
  have hnext := hopening front front' _ _ (hgap.append_withReturns skipped)
    (by rw [hsource, ht]; simp) (by rw [hsource', ht, Text.withReturns_append]; simp)
  rw [← List.append_assoc, ← List.append_assoc, Text.byteLength_append (front ++ gap),
    Text.byteLength_append (front' ++ gap')] at hnext
  rw [(h _ 0).left, (h 0 _).right]
  exact hnext

/-- A comment that is read alike in both sources leads up to what stands behind it. -/
theorem matchedFrom_of_segment {t later : Text} {s s' : Segment} (between : Text)
    (ht : t = s.text ++ (between ++ later))
    (hreturns : withReturns t = s'.text ++ (between ++ withReturns later))
    (hcomment : s.isComment = true) (hcomment' : s'.isComment = true) (hproper : s.IsProper)
    (hproper' : s'.IsProper) (hends : s.EndsBefore (between ++ later))
    (hends' : s'.EndsBefore (between ++ withReturns later))
    (hraw : Block.ReadsAlike s.text s'.text) (hbetween : Segment.isPlainCode between = true)
    (hlater : MatchedFrom source source' later) : MatchedFrom source source' t := by
  intro front front' gap gap' hgap hsource hsource'
  rw [hreturns] at hsource' ⊢
  rw [ht] at hsource ⊢
  rw [scan_append hproper hends, scan_append hproper' hends',
    Segment.comments_of_isComment hcomment, Segment.comments_of_isComment hcomment',
    List.singleton_append, List.singleton_append, scan_plainCode hbetween, scan_plainCode hbetween]
  refine Matched.cons ?_ hraw ?_
  · intro first first' hstop hstop'
    rw [hsource, hsource', adjoins_of_gap gap _ hstop (Text.byteLength_append front gap),
      adjoins_of_gap gap' _ hstop' (Text.byteLength_append front' gap'), hgap.allBlank, hgap.count]
  · have hnext := hlater (front ++ (gap ++ s.text)) (front' ++ (gap' ++ s'.text)) between between
      (SeparateAlike.refl between) (by rw [hsource]; simp) (by rw [hsource']; simp)
    simpa [Nat.add_assoc] using hnext

theorem matchedFrom_line {text later : Text} (htext : '\n' ∉ text)
    (hlater : MatchedFrom source source' later) :
    MatchedFrom source source' ('/' :: '/' :: (text ++ '\n' :: later)) := by
  have hreturns : withReturns ('/' :: '/' :: (text ++ '\n' :: later)) =
      (Segment.line (text ++ ['\r'])).text ++ (['\n'] ++ withReturns later) := by
    rw [Text.withReturns_cons (by decide), Text.withReturns_cons (by decide),
      Text.withReturns_append, Text.withReturns_eq_self htext, Text.withReturns_cons_lineFeed]
    simp [Segment.text]
  have hproper : Segment.IsProper (.line (text ++ ['\r'])) := by
    rw [Segment.IsProper, List.mem_append]
    rintro (hmem | hmem)
    · exact htext hmem
    · exact absurd hmem (by decide)
  have hends : ∀ u rest : Text, (Segment.line u).EndsBefore (['\n'] ++ rest) := by
    intro u rest _ _ c hc
    exact (Option.some.inj hc).symm
  -- The line feed stands behind both comments, while the carriage return is part of the second.
  exact matchedFrom_of_segment (s := .line text) ['\n'] rfl hreturns rfl rfl htext hproper
    (hends _ _) (hends _ _) (Block.ReadsAlike.line text) rfl hlater

theorem matchedFrom_lastLine {text : Text} (htext : '\n' ∉ text) :
    MatchedFrom source source' ('/' :: '/' :: text) := by
  have hsegment : '/' :: '/' :: text = (Segment.line text).text ++ ([] ++ []) :=
    (List.append_nil _).symm
  have hreturns : withReturns ('/' :: '/' :: text) = (Segment.line text).text ++ ([] ++ []) := by
    rw [Text.withReturns_eq_self (by simp [htext])]
    exact hsegment
  have hends : (Segment.line text).EndsBefore ([] ++ []) := by
    intro _ _ c hc
    cases hc
  have hnone : MatchedFrom source source' [] := matchedFrom_of_none fun _ _ => ⟨rfl, rfl⟩
  exact matchedFrom_of_segment [] hsegment hreturns rfl rfl htext htext hends hends
    (Block.ReadsAlike.refl _) rfl hnone

theorem matchedFrom_block {text later : Text} (htext : Segment.isBlockText text = true)
    (hlater : MatchedFrom source source' later) :
    MatchedFrom source source' ('/' :: '*' :: (text ++ '*' :: '/' :: later)) := by
  have hsegment : ∀ u rest : Text, '/' :: '*' :: (u ++ '*' :: '/' :: rest) =
      (Segment.block u).text ++ ([] ++ rest) := by
    intro u rest
    simp [Segment.text]
  have hreturns : withReturns ('/' :: '*' :: (text ++ '*' :: '/' :: later)) =
      (Segment.block (withReturns text)).text ++ ([] ++ withReturns later) := by
    rw [Text.withReturns_cons (by decide), Text.withReturns_cons (by decide),
      Text.withReturns_append, Text.withReturns_cons (by decide), Text.withReturns_cons (by decide),
      hsegment]
  have hproper : Segment.IsProper (.block (withReturns text)) :=
    (isBlockText_withReturns text).trans htext
  have hends : ∀ u rest : Text, (Segment.block u).EndsBefore rest := by
    intro u rest _ heq
    cases heq
  exact matchedFrom_of_segment [] (hsegment text later) hreturns rfl rfl htext hproper (hends _ _)
    (hends _ _) (Block.ReadsAlike.block text) rfl hlater

theorem matchedFrom_unclosed {rest : Text} (h : Segment.isBlockText rest = true) :
    MatchedFrom source source' ('/' :: '*' :: rest) := by
  apply matchedFrom_of_none
  intro pos pos'
  rw [Text.withReturns_cons (by decide), Text.withReturns_cons (by decide)]
  exact ⟨scan_unclosed h _ _ _, scan_unclosed ((isBlockText_withReturns rest).trans h) _ _ _⟩

theorem matchedFrom (source source' t : Text) : MatchedFrom source source' t := by
  -- A comment is read in one step, so what is left gets shorter, but not by one character.
  induction hlength : t.length using Nat.strong_induction_on generalizing t with
  | _ n ih =>
      subst hlength
      rcases exists_opening_or_none .code t with
        hnone | ⟨skipped, mark, rest, hmark, ht, hopening⟩
      · exact matchedFrom_of_none hnone
      · have hshorter : ∀ later : Text, later.length ≤ rest.length →
            MatchedFrom source source' later := by
          intro later hle
          refine ih later.length ?_ later rfl
          rw [ht, List.length_append, List.length_cons, List.length_cons]
          omega
        refine matchedFrom_of_opening skipped ht hopening ?_
        rcases hmark with rfl | rfl
        · rcases Text.exists_lines_eq_cons rest with ⟨text, below, hlines⟩
          have htext : '\n' ∉ text :=
            Text.lineFeed_not_mem_of_mem_lines (t := rest) (by simp [hlines])
          have hrest := Text.unlines_lines rest
          rw [hlines] at hrest
          cases below with
          | nil =>
              rw [Text.unlines_singleton] at hrest
              rw [← hrest]
              exact matchedFrom_lastLine htext
          | cons l others =>
              rw [Text.unlines_cons (List.cons_ne_nil l others)] at hrest
              rw [← hrest] at hshorter ⊢
              exact matchedFrom_line htext (hshorter _ (by simp; omega))
        · rcases Segment.exists_closing_or_none rest with hnone | ⟨text, later, htext, hrest⟩
          · exact matchedFrom_unclosed hnone
          · rw [hrest] at hshorter ⊢
            exact matchedFrom_block htext (hshorter _ (by simp; omega))

end Sources

/-- The comments of a source match those that are found with carriage returns in it. -/
theorem matched_ofSource (source : Text) :
    Matched source (withReturns source) 0 0 (ofSource source) (ofSource (withReturns source)) :=
  matchedFrom source (withReturns source) source [] [] [] [] (SeparateAlike.refl []) rfl rfl

/-!
# Groups of both sources
-/

/-- Comments that match are in groups that match. -/
theorem Matched.forall₂_groups {source source' : Text} {stop stop' : Nat} {cs cs' : List Comment}
    (h : Matched source source' stop stop' cs cs') :
    List.Forall₂ (List.Forall₂ fun c c' => Block.ReadsAlike c.text c'.text) (groups source cs)
      (groups source' cs') := by
  induction h with
  | nil =>
      exact List.Forall₂.nil
  | @cons stop stop' c c' later later' hadjoins hraw hlater ih =>
      cases hlater with
      | nil =>
          exact List.Forall₂.cons (List.Forall₂.cons hraw List.Forall₂.nil) List.Forall₂.nil
      | @cons _ _ d d' more more' hnext hraw' hmore =>
          rw [groups_cons_cons, groups_cons_cons, hnext c c' rfl rfl]
          cases adjoins source c d with
          | false =>
              exact List.Forall₂.cons (List.Forall₂.cons hraw List.Forall₂.nil) ih
          | true =>
              rw [if_pos rfl, if_pos rfl]
              generalize groups source (d :: more) = gs at ih ⊢
              generalize groups source' (d' :: more') = gs' at ih ⊢
              cases ih with
              | nil =>
                  exact List.Forall₂.nil
              | cons hgroup hothers =>
                  exact List.Forall₂.cons (List.Forall₂.cons hraw hgroup) hothers

end Comment
end EndpointDocs
