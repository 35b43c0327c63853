import EndpointDocs.Program.Job
import EndpointDocs.Proofs.Block.WrittenComments
import EndpointDocs.Proofs.Comment.Stacks

/-!
# Sources with documentation blocks

A source is written block by block: a blank line, the comments of the block, and a declaration below
them.  Reading it finds the blocks as they are meant, whichever way each of them is written as
comments and whatever the declarations are.

## Groups

The comments of one block stand one under the other, so they are one group.  A declaration stands
between those of two blocks, so these are two.
-/

namespace EndpointDocs

/-- A block in a source: the way it is written, and the declaration below it. -/
structure SourceBlock where
  block : Block.Written
  style : Block.Style
  declaration : List Segment

namespace SourceBlock

/-- The blocks that can be written in a source.  The declaration is a line without comments. -/
structure IsWritable (b : SourceBlock) : Prop where
  block_writable : b.block.IsWritable
  name_unclosed : b.style = .block → Segment.isBlockText b.block.name = true
  lines_unclosed : b.style = .block → ∀ l ∈ b.block.lines, Segment.isBlockText l = true
  declaration_plain : Segment.IsPlain b.declaration
  declaration_line : '\n' ∉ Segment.written b.declaration
  declaration_not_blank : Text.allBlank (Segment.written b.declaration) = false

instance (b : SourceBlock) : Decidable b.IsWritable :=
  decidable_of_iff (b.block.IsWritable ∧
    (b.style = .block → Segment.isBlockText b.block.name = true) ∧
    (b.style = .block → ∀ l ∈ b.block.lines, Segment.isBlockText l = true) ∧
    Segment.IsPlain b.declaration ∧ '\n' ∉ Segment.written b.declaration ∧
    Text.allBlank (Segment.written b.declaration) = false)
    ⟨fun ⟨hblock, hname, hlines, hplain, hline, hblank⟩ =>
        ⟨hblock, hname, hlines, hplain, hline, hblank⟩,
      fun ⟨hblock, hname, hlines, hplain, hline, hblank⟩ =>
        ⟨hblock, hname, hlines, hplain, hline, hblank⟩⟩

def text (b : SourceBlock) : Text :=
  '\n' :: '\n' :: (Text.unlines (b.block.comments b.style) ++
    '\n' :: Segment.written b.declaration)

def source (blocks : List SourceBlock) (ending : List Segment) : Text :=
  "package p".toList ++ (blocks.flatMap text ++ Segment.written ending)

/-!
# Segments of a source
-/

/-- The comments of a block as segments. -/
def commentSegments (b : SourceBlock) : List Segment :=
  match b.style with
  | .line => (b.block.marker :: b.block.lines).map fun l => .line (' ' :: l)
  | .block =>
      [.block ('\n' :: (b.block.marker ++ '\n' :: (Text.unlines b.block.lines ++ ['\n'])))]

def segments (b : SourceBlock) : List Segment :=
  .code ['\n', '\n'] :: (Segment.stacked b.commentSegments ++ .code ['\n'] :: b.declaration)

theorem map_text_commentSegments (b : SourceBlock) :
    b.commentSegments.map Segment.text = b.block.comments b.style := by
  unfold commentSegments
  cases b.style with
  | line =>
      rw [List.map_map]
      rfl
  | block =>
      simp [Segment.text, Block.Written.comments]

theorem isComment_of_mem_commentSegments {b : SourceBlock} :
    ∀ s ∈ b.commentSegments, s.isComment = true := by
  intro s hs
  unfold commentSegments at hs
  cases hstyle : b.style with
  | line =>
      rw [hstyle] at hs
      rcases List.mem_map.mp hs with ⟨l, -, rfl⟩
      rfl
  | block =>
      rw [hstyle] at hs
      rw [List.mem_singleton.mp hs]
      rfl

theorem commentSegments_ne_nil (b : SourceBlock) : b.commentSegments ≠ [] := by
  unfold commentSegments
  cases b.style <;> simp

theorem isBlockText_marker {b : Block.Written} (h : Segment.isBlockText b.name = true) :
    Segment.isBlockText b.marker = true := by
  have hmarker : b.marker = "apidoc".toList ++ '(' :: (b.name ++ ')' :: []) := by
    rfl
  rw [hmarker, Segment.isBlockText_append_cons (by decide) (by decide),
    Segment.isBlockText_append_cons (by decide) (by decide), h]
  rfl

theorem isProper_of_mem_commentSegments {b : SourceBlock} (h : b.IsWritable) :
    ∀ s ∈ b.commentSegments, s.IsProper := by
  intro s hs
  unfold commentSegments at hs
  cases hstyle : b.style with
  | line =>
      rw [hstyle] at hs
      rcases List.mem_map.mp hs with ⟨l, hl, rfl⟩
      have hline : '\n' ∉ l := by
        rcases List.mem_cons.mp hl with rfl | hl
        · exact Block.Written.lineFeed_not_mem_marker h.block_writable
        · exact h.block_writable.lines_line l hl
      change '\n' ∉ ' ' :: l
      simpa using hline
  | block =>
      rw [hstyle] at hs
      have hmarker := isBlockText_marker (h.name_unclosed hstyle)
      have hlines := Segment.isBlockText_unlines (h.lines_unclosed hstyle)
      have hfeeds := Segment.isBlockText_append_cons (c := '\n') (by decide) (by decide)
      have hstart := hfeeds [] (b.block.marker ++ '\n' :: (Text.unlines b.block.lines ++ ['\n']))
      rw [List.nil_append, hfeeds, hfeeds, hmarker, hlines] at hstart
      rw [List.mem_singleton.mp hs]
      exact hstart

theorem written_segments (b : SourceBlock) : Segment.written b.segments = b.text := by
  rw [segments, Segment.written_cons, Segment.written_append, Segment.written_cons,
    Segment.written_stacked, map_text_commentSegments]
  rfl

theorem written_flatMap_segments (blocks : List SourceBlock) :
    Segment.written (blocks.flatMap segments) = blocks.flatMap text := by
  induction blocks with
  | nil =>
      rfl
  | cons b later ih =>
      rw [List.flatMap_cons, Segment.written_append, ih, written_segments, List.flatMap_cons]

theorem isPlain_declaration {b : SourceBlock} (h : b.IsWritable) :
    Segment.IsPlain (.code ['\n'] :: b.declaration) := by
  intro s hs
  rcases List.mem_cons.mp hs with rfl | hs
  · exact ⟨rfl, rfl⟩
  · exact h.declaration_plain s hs

theorem isRow_segments {b : SourceBlock} (h : b.IsWritable) (rest : Text) :
    Segment.IsRow rest b.segments := by
  have hfeeds : Segment.IsPlain [.code ['\n', '\n']] := by
    intro s hs
    rw [List.mem_singleton.mp hs]
    exact ⟨rfl, rfl⟩
  have hcomments : Segment.IsRow (Segment.written (.code ['\n'] :: b.declaration) ++ rest)
      (Segment.stacked b.commentSegments) := by
    apply Segment.isRow_stacked (isProper_of_mem_commentSegments h)
    intro c hc
    cases hc
    rfl
  have hall : Segment.IsRow rest ([.code ['\n', '\n']] ++
      (Segment.stacked b.commentSegments ++ .code ['\n'] :: b.declaration)) := by
    rw [Segment.isRow_append, Segment.isRow_append]
    exact ⟨hfeeds.isRow _, hcomments, (isPlain_declaration h).isRow _⟩
  exact hall

theorem isRow_flatMap_segments {blocks : List SourceBlock} (h : ∀ b ∈ blocks, b.IsWritable)
    (rest : Text) : Segment.IsRow rest (blocks.flatMap segments) := by
  induction blocks with
  | nil =>
      trivial
  | cons b later ih =>
      rw [List.flatMap_cons, Segment.isRow_append]
      exact ⟨isRow_segments (h b (by simp)) _, ih fun x hx => h x (by simp [hx])⟩

/-!
# Groups of a source
-/

/-- The comments of a block that stands behind a text. -/
def commentsBehind (front : Text) (b : SourceBlock) : List Comment :=
  Segment.found (Text.byteLength (front ++ ['\n', '\n'])) (Segment.stacked b.commentSegments)

theorem found_segments {b : SourceBlock} (h : b.IsWritable) (front : Text) :
    Segment.found (Text.byteLength front) b.segments = b.commentsBehind front := by
  rw [segments, Segment.found, Segment.found_append, (isPlain_declaration h).found_eq_nil,
    List.append_nil, commentsBehind, Text.byteLength_append]
  rfl

theorem commentsBehind_ne_nil (front : Text) (b : SourceBlock) : b.commentsBehind front ≠ [] :=
  Segment.found_stacked_ne_nil isComment_of_mem_commentSegments b.commentSegments_ne_nil _

theorem map_text_commentsBehind (front : Text) (b : SourceBlock) :
    (b.commentsBehind front).map Comment.text = b.block.comments b.style := by
  rw [commentsBehind, Segment.map_text_found_stacked isComment_of_mem_commentSegments,
    map_text_commentSegments]

theorem text_eq_stacked (b : SourceBlock) :
    b.text = ['\n', '\n'] ++ (Segment.written (Segment.stacked b.commentSegments) ++
      '\n' :: Segment.written b.declaration) := by
  rw [Segment.written_stacked, map_text_commentSegments]
  rfl

theorem isChain_commentsBehind (front : Text) (b : SourceBlock) (back : Text) :
    (b.commentsBehind front).IsChain fun x y =>
      Comment.adjoins (front ++ (b.text ++ back)) x y = true := by
  have hwritten : front ++ (b.text ++ back) =
      (front ++ ['\n', '\n']) ++ (Segment.written (Segment.stacked b.commentSegments) ++
        ('\n' :: Segment.written b.declaration ++ back)) := by
    rw [text_eq_stacked]
    simp
  rw [hwritten]
  exact Segment.isChain_found_stacked isComment_of_mem_commentSegments _ _

/-- What stands between the comments of a block and those of the next one. -/
def gap (b : SourceBlock) : Text :=
  '\n' :: (Segment.written b.declaration ++ ['\n', '\n'])

theorem allBlank_gap {b : SourceBlock} (h : b.IsWritable) : Text.allBlank b.gap = false := by
  have hall : Text.allBlank b.gap =
      (Text.allBlank (Segment.written b.declaration) && Text.allBlank ['\n', '\n']) := by
    rw [gap, Text.allBlank, List.all_cons, List.all_append]
    rfl
  rw [hall, h.declaration_not_blank, Bool.false_and]

theorem adjoins_commentsBehind {b : SourceBlock} (h : b.IsWritable) (front : Text)
    (next : SourceBlock) (back : Text) {last first : Comment}
    (hlast : last ∈ (b.commentsBehind front).getLast?)
    (hfirst : first ∈ (next.commentsBehind (front ++ b.text)).head?) :
    Comment.adjoins (front ++ (b.text ++ (next.text ++ back))) last first = false := by
  let upto := front ++ ['\n', '\n'] ++ Segment.written (Segment.stacked b.commentSegments)
  have hstop : last.stop = Text.byteLength upto := by
    rw [Segment.stop_of_getLast?_found_stacked isComment_of_mem_commentSegments last hlast,
      ← Text.byteLength_append]
  have hplace : front ++ b.text ++ ['\n', '\n'] = upto ++ b.gap := by
    rw [text_eq_stacked, gap]
    simp [upto]
  have hstart : first.start = Text.byteLength upto + Text.byteLength b.gap := by
    rw [Segment.start_of_head?_found_stacked isComment_of_mem_commentSegments first hfirst, hplace,
      Text.byteLength_append]
  have hsource : front ++ (b.text ++ (next.text ++ back)) =
      upto ++ (b.gap ++ (Text.unlines (next.block.comments next.style) ++
        '\n' :: Segment.written next.declaration ++ back)) := by
    rw [← List.append_assoc upto, ← hplace, text]
    simp [text]
  rw [hsource, Comment.adjoins_of_gap b.gap _ hstop hstart, allBlank_gap h, Bool.false_and]

/-- The comments of the blocks, cut into groups, are those of each block. -/
theorem splitBy_found_flatMap_segments (front : Text) {blocks : List SourceBlock}
    (h : ∀ b ∈ blocks, b.IsWritable) (back : Text) :
    ((Segment.found (Text.byteLength front) (blocks.flatMap segments)).splitBy
        (Comment.adjoins (front ++ (blocks.flatMap text ++ back)))).map (·.map Comment.text) =
      blocks.map fun b => b.block.comments b.style := by
  induction blocks generalizing front with
  | nil =>
      rfl
  | cons b later ih =>
      have hb : b.IsWritable := h b (by simp)
      have hlater : ∀ x ∈ later, x.IsWritable := fun x hx => h x (by simp [hx])
      have hfound : Segment.found (Text.byteLength front) ((b :: later).flatMap segments) =
          b.commentsBehind front ++
            Segment.found (Text.byteLength (front ++ b.text)) (later.flatMap segments) := by
        rw [List.flatMap_cons, Segment.found_append, found_segments hb, written_segments,
          Text.byteLength_append]
      have hapart : ∀ last ∈ (b.commentsBehind front).getLast?,
          ∀ first ∈
            (Segment.found (Text.byteLength (front ++ b.text)) (later.flatMap segments)).head?,
          Comment.adjoins (front ++ (b.text ++ (later.flatMap text ++ back))) last first =
            false := by
        intro last hlast first hfirst
        cases later with
        | nil =>
            cases hfirst
        | cons next others =>
            rw [List.flatMap_cons, Segment.found_append, found_segments (hlater next (by simp)),
              List.head?_append_of_ne_nil _ (next.commentsBehind_ne_nil _)] at hfirst
            rw [List.flatMap_cons, List.append_assoc next.text]
            exact adjoins_commentsBehind hb front next _ hlast hfirst
      have hsource : front ++ ((b :: later).flatMap text ++ back) =
          front ++ (b.text ++ (later.flatMap text ++ back)) := by
        rw [List.flatMap_cons, List.append_assoc]
      have hrest := ih (front ++ b.text) hlater
      rw [List.append_assoc] at hrest
      rw [hfound, hsource, List.splitBy_append hapart,
        List.splitBy_of_isChain (b.commentsBehind_ne_nil front) (b.isChain_commentsBehind front _),
        List.map_append, hrest, List.map_singleton, map_text_commentsBehind]
      rfl

/-!
# Reading a source
-/

theorem commentGroups_source {blocks : List SourceBlock} {ending : List Segment}
    (hblocks : ∀ b ∈ blocks, b.IsWritable) (hending : Segment.IsPlain ending) :
    Job.commentGroups (source blocks ending) (Comment.ofSource (source blocks ending)) =
      blocks.map fun b => b.block.comments b.style := by
  let package : Segment := .code "package p".toList
  have hpackage : Segment.IsPlain [package] := by
    intro s hs
    rw [List.mem_singleton.mp hs]
    exact ⟨rfl, rfl⟩
  have hwritten : source blocks ending =
      Segment.written ([package] ++ (blocks.flatMap segments ++ ending)) := by
    rw [Segment.written_append, Segment.written_append, written_flatMap_segments]
    rfl
  have hrow : Segment.IsRow [] ([package] ++ (blocks.flatMap segments ++ ending)) := by
    rw [Segment.isRow_append, Segment.isRow_append]
    exact ⟨hpackage.isRow _, isRow_flatMap_segments hblocks _, hending.isRow _⟩
  have hfound : Comment.ofSource (source blocks ending) =
      Segment.found (Text.byteLength "package p".toList) (blocks.flatMap segments) := by
    rw [hwritten, Comment.ofSource_written hrow, Segment.found_append, Segment.found_append,
      hpackage.found_eq_nil, hending.found_eq_nil, List.append_nil, List.nil_append, Nat.zero_add]
    rfl
  rw [Job.commentGroups, Comment.groups, hfound]
  exact splitBy_found_flatMap_segments "package p".toList hblocks (Segment.written ending)

theorem readSource_eq_ofOutcomes (strict : Bool) {blocks : List SourceBlock}
    {ending : List Segment} (hblocks : ∀ b ∈ blocks, b.IsWritable)
    (hending : Segment.IsPlain ending) :
    Job.readSource strict (source blocks ending) =
      Reading.ofOutcomes strict (blocks.map fun b => b.block.outcome) := by
  rw [Job.readSource, commentGroups_source hblocks hending, Reading.ofGroups]
  congr 1
  clear hending
  induction blocks with
  | nil =>
      rfl
  | cons b later ih =>
      have hb := (hblocks b (by simp)).block_writable
      rw [List.map_cons, List.flatMap_cons, List.map_append,
        ih fun x hx => hblocks x (by simp [hx]),
        Block.Written.ofGroup_comments hb, List.map_singleton, Block.Written.outcome_comments hb,
        List.map_cons, List.singleton_append]

theorem endpoints_outcomes (blocks : List SourceBlock) :
    (blocks.flatMap fun b => b.block.outcome.endpoints) =
      (blocks.filter fun b => !b.block.isBlank).filterMap fun b =>
        (Endpoint.ofBody b.block.name b.block.body).toOption := by
  induction blocks with
  | nil =>
      rfl
  | cons b later ih =>
      rw [List.flatMap_cons, ih, Block.Written.outcome]
      cases hblank : b.block.isBlank with
      | true =>
          simp [hblank, Block.Outcome.endpoints]
      | false =>
          cases hbody : Endpoint.ofBody b.block.name b.block.body with
          | ok e =>
              simp [hblank, hbody, Block.Outcome.endpoints, Except.toOption]
          | error problem =>
              simp [hblank, hbody, Block.Outcome.endpoints, Except.toOption]

theorem readSource_congr (strict : Bool) {blocks others : List SourceBlock}
    {ending otherEnding : List Segment} (hblocks : ∀ b ∈ blocks, b.IsWritable)
    (hothers : ∀ b ∈ others, b.IsWritable) (hending : Segment.IsPlain ending)
    (hotherEnding : Segment.IsPlain otherEnding) (h : others.map block = blocks.map block) :
    Job.readSource strict (source others otherEnding) =
      Job.readSource strict (source blocks ending) := by
  have houtcomes := congrArg (List.map Block.Written.outcome) h
  rw [List.map_map, List.map_map] at houtcomes
  rw [readSource_eq_ofOutcomes strict hothers hotherEnding,
    readSource_eq_ofOutcomes strict hblocks hending]
  exact congrArg (Reading.ofOutcomes strict) houtcomes

/-- The endpoints and the notes are those of the blocks in order.  What a block adds depends on its
name and its lines, and neither on its style nor on the declarations. -/
theorem readSource_source {blocks : List SourceBlock} {ending : List Segment}
    (hblocks : ∀ b ∈ blocks, b.IsWritable) (hending : Segment.IsPlain ending) :
    Job.readSource false (source blocks ending) =
      ⟨blocks.flatMap fun b => b.block.outcome.notes,
        .ok ((blocks.filter fun b => !b.block.isBlank).filterMap fun b =>
          (Endpoint.ofBody b.block.name b.block.body).toOption)⟩ ∧
    ∀ others otherEnding, (∀ b ∈ others, b.IsWritable) → Segment.IsPlain otherEnding →
      others.map block = blocks.map block →
      Job.readSource false (source others otherEnding) =
        Job.readSource false (source blocks ending) := by
  constructor
  · rw [readSource_eq_ofOutcomes false hblocks hending, Reading.ofOutcomes_lenient,
      List.flatMap_map, List.flatMap_map, endpoints_outcomes]
  · intro others otherEnding hothers hotherEnding h
    exact readSource_congr false hblocks hothers hending hotherEnding h

/-- Four blocks: one of each style that says the same, one without text and a malformed one. -/
def itemBlocks : List SourceBlock :=
  [⟨⟨"item".toList, ["GET /items/:id  ".toList, [], "\t".toList, "Parameter id".toList]⟩, .line,
      [.code "var t = ".toList, .literal '"' "\\\" // apidoc(x)".toList]⟩,
    ⟨⟨"item".toList, ["GET /items/:id".toList, [], "Parameter id".toList]⟩, .block,
      [.code "var s = ".toList, .rawString "/* \" ".toList]⟩,
    ⟨⟨"nothing".toList, [[], " ".toList]⟩, .line, [.code "func G() {}".toList]⟩,
    ⟨⟨"broken".toList, ["// quotes \" and '".toList, "Success Response abc".toList]⟩, .block,
      [.code "func H() {}".toList]⟩]

/-- The same blocks, all of them written as line comments. -/
def itemBlocksInLines : List SourceBlock :=
  itemBlocks.map fun b => { b with style := .line }

theorem readSource_source_itemBlocks :
    (∀ b ∈ itemBlocks, b.IsWritable) ∧ Segment.IsPlain [.code ['\n']] ∧
      (∀ b ∈ itemBlocksInLines, b.IsWritable) ∧
      Job.readSource false (source itemBlocks [.code ['\n']]) =
        ⟨itemBlocks.flatMap fun b => b.block.outcome.notes,
          .ok ((itemBlocks.filter fun b => !b.block.isBlank).filterMap fun b =>
            (Endpoint.ofBody b.block.name b.block.body).toOption)⟩ ∧
      Job.readSource false (source itemBlocksInLines []) =
        Job.readSource false (source itemBlocks [.code ['\n']]) := by
  have hblocks : ∀ b ∈ itemBlocks, b.IsWritable := by
    decide +kernel
  have hlines : ∀ b ∈ itemBlocksInLines, b.IsWritable := by
    decide +kernel
  have hending : Segment.IsPlain [.code ['\n']] := by
    decide
  rcases readSource_source hblocks hending with ⟨hreading, hstyles⟩
  exact ⟨hblocks, hending, hlines, hreading,
    hstyles itemBlocksInLines [] hlines (by decide) rfl⟩

end SourceBlock
end EndpointDocs
