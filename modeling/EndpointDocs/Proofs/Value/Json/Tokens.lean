import EndpointDocs.Proofs.Numeral.Decimal
import EndpointDocs.Value.Json.Printer
import EndpointDocs.Value.Json.Token

/-!
# The tokens of a written value

A value is written as the tokens that a walk through it gives; line breaks and indentation stand
between them only.  A word ends where a space, a mark or a quote comes, so the tokens of a value are
told in front of a text that does not go on with a word.
-/

namespace EndpointDocs

namespace Value

mutual

/-- Whether every number in a value is an integer that fits into 64 bits. -/
def isIntegral : Value → Bool
  | .integer n => isLong n
  | .float _ => false
  | .list items => areIntegral items
  | .table entries => haveIntegral entries
  | _ => true
termination_by structural v => v

def areIntegral : List Value → Bool
  | [] => true
  | item :: items => isIntegral item && areIntegral items
termination_by structural items => items

def haveIntegral : List (Text × Value) → Bool
  | [] => true
  | (_, v) :: entries => isIntegral v && haveIntegral entries
termination_by structural entries => entries

end

end Value

namespace Json

mutual

/-- The tokens of a value; one that is neither a text nor a list nor a table is a word. -/
def walk : Value → List Token
  | .text t => [.text t]
  | .list [] => [.leftBracket, .rightBracket]
  | .list (item :: items) => .leftBracket :: (walk item ++ (walkItems items ++ [.rightBracket]))
  | .table [] => [.leftBrace, .rightBrace]
  | .table ((name, v) :: entries) =>
      .leftBrace :: .text name :: .colon :: (walk v ++ (walkEntries entries ++ [.rightBrace]))
  | v => [.word (render 0 v)]
termination_by structural v => v

def walkItems : List Value → List Token
  | [] => []
  | item :: items => .comma :: (walk item ++ walkItems items)
termination_by structural items => items

def walkEntries : List (Text × Value) → List Token
  | [] => []
  | (name, v) :: entries => .comma :: .text name :: .colon :: (walk v ++ walkEntries entries)
termination_by structural entries => entries

end

/-!
## Quoted texts
-/

theorem tokensFrom_closingQuote (read rest : Text) :
    tokensFrom (.text read) ('"' :: rest) =
      (tokensFrom .gap rest).map (.text read.reverse :: ·) := by
  rw [tokensFrom]

theorem tokensFrom_letter (read rest : Text) {c e : Char} (hc : c ≠ 'u')
    (h : letterEscape? c = some e) :
    tokensFrom (.text read) ('\\' :: c :: rest) = tokensFrom (.text (e :: read)) rest := by
  rw [tokensFrom, h]
  intro a b c' d rest' heq
  exact absurd heq hc

theorem tokensFrom_unit (read rest : Text) {a b c d : Char} {n : Nat}
    (h : unit? a b c d = some n) (hhigh : isHigh n = false) (hlow : isLow n = false) :
    tokensFrom (.text read) ('\\' :: 'u' :: a :: b :: c :: d :: rest) =
      tokensFrom (.text (Char.ofNat n :: read)) rest := by
  rw [tokensFrom, h]
  simp only [hhigh, hlow]
  rfl

theorem tokensFrom_plain (read rest : Text) {c : Char} (hquote : c ≠ '"') (hslash : c ≠ '\\')
    (hc : ¬ c.toNat < 0x20) :
    tokensFrom (.text read) (c :: rest) = tokensFrom (.text (c :: read)) rest := by
  rw [tokensFrom]
  · rw [if_neg]
    intro h
    exact h.elim hc hslash
  · exact hquote
  · intro _ _ _ _ _ h
    exact absurd h hslash
  · intro _ _ h
    exact absurd h hslash

/-- The two digits of a control give its number. -/
theorem unit?_control : ∀ n < 0x20,
    unit? '0' '0' (Nat.digitChar (n / 16)) (Nat.digitChar (n % 16)) = some n := by
  decide

theorem tokensFrom_escapedChar (read rest : Text) (c : Char) :
    tokensFrom (.text read) (escapedChar c ++ rest) = tokensFrom (.text (c :: read)) rest := by
  unfold escapedChar
  split
  -- the quote, the backslash and the controls that a letter stands for
  iterate 7 exact tokensFrom_letter read rest (by decide) rfl
  · next hquote hslash _ _ _ _ _ =>
      split
      · next hcontrol =>
          have hhigh : isHigh c.toNat = false := by
            simp only [isHigh, Bool.and_eq_false_iff, decide_eq_false_iff_not]
            omega
          have hlow : isLow c.toNat = false := by
            simp only [isLow, Bool.and_eq_false_iff, decide_eq_false_iff_not]
            omega
          have hread := tokensFrom_unit read rest (unit?_control c.toNat hcontrol) hhigh hlow
          rw [Char.ofNat_toNat] at hread
          exact hread
      · next hcontrol =>
          exact tokensFrom_plain read rest hquote hslash hcontrol

theorem tokensFrom_escaped (read rest : Text) (t : Text) :
    tokensFrom (.text read) (t.flatMap escapedChar ++ rest) =
      tokensFrom (.text (t.reverse ++ read)) rest := by
  induction t generalizing read with
  | nil =>
      rfl
  | cons c t ih =>
      rw [List.flatMap_cons, List.append_assoc, tokensFrom_escapedChar, ih, List.reverse_cons,
        List.append_assoc]
      rfl

/-!
## Between quoted texts
-/

/-- Whether a character goes on with a word: it is neither a quote nor a space nor a mark. -/
def isInWord (c : Char) : Bool :=
  !(c == '"' || isSpace c || (mark? c).isSome)

/-- No word goes on at the start of a text. -/
def EndsWord (t : Text) : Prop :=
  ∀ c ∈ t.head?, isInWord c = false

theorem tokensFrom_outside {mode : Mode} (hmode : ∀ read, mode ≠ .text read) (c : Char)
    (rest : Text) :
    tokensFrom mode (c :: rest) =
      if c = '"' then (tokensFrom (.text []) rest).map (mode.pending ++ ·)
      else if isSpace c then (tokensFrom .gap rest).map (mode.pending ++ ·)
      else
        match mark? c with
        | some token => (tokensFrom .gap rest).map (mode.pending ++ token :: ·)
        | none => tokensFrom (mode.wordWith c) rest := by
  cases mode with
  | text read => exact absurd rfl (hmode read)
  | gap => rfl
  | word read => rfl

theorem tokensFrom_openingQuote (rest : Text) :
    tokensFrom .gap ('"' :: rest) = tokensFrom (.text []) rest := by
  rw [tokensFrom_outside (by simp), if_pos rfl]
  exact Option.map_id'

theorem tokensFrom_quotedText (t rest : Text) :
    tokensFrom .gap (quotedText t ++ rest) = (tokensFrom .gap rest).map (.text t :: ·) := by
  rw [quotedText, List.cons_append, List.append_assoc, tokensFrom_openingQuote,
    tokensFrom_escaped, List.append_nil]
  change tokensFrom (.text t.reverse) ('"' :: rest) = _
  rw [tokensFrom_closingQuote, List.reverse_reverse]

theorem tokensFrom_mark (token : Token) (rest : Text) {c : Char} (h : mark? c = some token) :
    tokensFrom .gap (c :: rest) = (tokensFrom .gap rest).map (token :: ·) := by
  have hne : ∀ d, mark? d = none → c ≠ d := by
    rintro d hd rfl
    rw [hd] at h
    cases h
  have hquote : c ≠ '"' := hne _ rfl
  have hspace : isSpace c = false := by
    simp only [isSpace, Bool.or_eq_false_iff, beq_eq_false_iff_ne]
    exact ⟨⟨⟨hne _ rfl, hne _ rfl⟩, hne _ rfl⟩, hne _ rfl⟩
  rw [tokensFrom_outside (by simp), if_neg hquote, hspace, h]
  rfl

theorem tokensFrom_space (rest : Text) {c : Char} (hspace : isSpace c = true) :
    tokensFrom .gap (c :: rest) = tokensFrom .gap rest := by
  have hquote : c ≠ '"' := by
    rintro rfl
    cases hspace
  rw [tokensFrom_outside (by simp), if_neg hquote, if_pos hspace]
  exact Option.map_id'

theorem tokensFrom_spaces {s : Text} (h : ∀ c ∈ s, isSpace c = true) (rest : Text) :
    tokensFrom .gap (s ++ rest) = tokensFrom .gap rest := by
  induction s with
  | nil =>
      rfl
  | cons c s ih =>
      rw [List.cons_append, tokensFrom_space _ (h c (by simp))]
      exact ih fun d hd => h d (by simp [hd])

theorem isSpace_of_mem_newLine {depth : Nat} {c : Char} (h : c ∈ newLine depth) :
    isSpace c = true := by
  rcases List.mem_cons.mp h with rfl | h
  · rfl
  · rw [List.eq_of_mem_replicate h]
    rfl

theorem tokensFrom_newLine (depth : Nat) (rest : Text) :
    tokensFrom .gap (newLine depth ++ rest) = tokensFrom .gap rest :=
  tokensFrom_spaces (fun _ => isSpace_of_mem_newLine) rest

/-!
## Words
-/

theorem tokensFrom_inWord {mode : Mode} (hmode : ∀ read, mode ≠ .text read) {c : Char}
    (hc : isInWord c = true) (rest : Text) :
    tokensFrom mode (c :: rest) = tokensFrom (mode.wordWith c) rest := by
  simp only [isInWord, Bool.not_eq_true', Bool.or_eq_false_iff, beq_eq_false_iff_ne,
    Option.isSome_eq_false_iff, Option.isNone_iff_eq_none] at hc
  rcases hc with ⟨⟨hquote, hspace⟩, hmark⟩
  rw [tokensFrom_outside hmode, if_neg hquote, hspace, hmark]
  rfl

theorem tokensFrom_endsWord {mode : Mode} (hmode : ∀ read, mode ≠ .text read) {rest : Text}
    (hrest : EndsWord rest) :
    tokensFrom mode rest = (tokensFrom .gap rest).map (mode.pending ++ ·) := by
  cases rest with
  | nil =>
      cases mode with
      | text read => exact absurd rfl (hmode read)
      | gap => rfl
      | word read => rfl
  | cons c rest =>
      have hc : isInWord c = false := hrest c rfl
      rw [tokensFrom_outside hmode, tokensFrom_outside (by simp : ∀ read, Mode.gap ≠ .text read)]
      simp only [Mode.pending, List.nil_append, Option.map_id']
      split_ifs with hquote hspace
      · rfl
      · rfl
      · cases hmark : mark? c with
        | some token =>
            simp [Option.map_map, Function.comp_def]
        | none =>
            simp [isInWord, hquote, hspace, hmark] at hc

theorem tokensFrom_wordRest (read : Text) {w rest : Text} (hw : ∀ c ∈ w, isInWord c = true)
    (hrest : EndsWord rest) :
    tokensFrom (.word read) (w ++ rest) =
      (tokensFrom .gap rest).map (.word (read.reverse ++ w) :: ·) := by
  induction w generalizing read with
  | nil =>
      rw [List.nil_append, tokensFrom_endsWord (by simp) hrest, List.append_nil]
      rfl
  | cons c w ih =>
      rw [List.cons_append, tokensFrom_inWord (by simp) (hw c (by simp))]
      have hread := ih (c :: read) fun d hd => hw d (by simp [hd])
      rw [List.reverse_cons, List.append_assoc] at hread
      exact hread

theorem tokensFrom_word {w rest : Text} (hne : w ≠ []) (hw : ∀ c ∈ w, isInWord c = true)
    (hrest : EndsWord rest) :
    tokensFrom .gap (w ++ rest) = (tokensFrom .gap rest).map (.word w :: ·) := by
  cases w with
  | nil =>
      exact absurd rfl hne
  | cons c w =>
      rw [List.cons_append, tokensFrom_inWord (by simp) (hw c (by simp))]
      exact tokensFrom_wordRest [c] (fun d hd => hw d (by simp [hd])) hrest

theorem isInWord_of_isDigit {c : Char} (h : c.isDigit = true) : isInWord c = true := by
  have hne : ∀ d : Char, d.isDigit = false → c ≠ d := by
    rintro d hd rfl
    rw [h] at hd
    cases hd
  have hmark : mark? c = none := by
    unfold mark?
    split
    all_goals first
      | rfl
      | exact absurd h (by decide)
  have hquote : c ≠ '"' := hne '"' (by decide)
  have hspace : isSpace c = false := by
    simp only [isSpace, Bool.or_eq_false_iff, beq_eq_false_iff_ne]
    exact ⟨⟨⟨hne _ (by decide), hne _ (by decide)⟩, hne _ (by decide)⟩, hne _ (by decide)⟩
  simp [isInWord, hquote, hspace, hmark]

theorem isInWord_of_mem_signedDecimal {n : Int} {c : Char} (h : c ∈ Numeral.signedDecimal n) :
    isInWord c = true := by
  rcases Numeral.isDigit_or_minus_of_mem_signedDecimal h with hdigit | rfl
  · exact isInWord_of_isDigit hdigit
  · rfl

/-!
## Values
-/

theorem endsWord_cons {c : Char} (h : isInWord c = false) (rest : Text) : EndsWord (c :: rest) := by
  intro d hd
  rw [← Option.some.inj hd]
  exact h

theorem endsWord_newLine (depth : Nat) (rest : Text) : EndsWord (newLine depth ++ rest) :=
  endsWord_cons rfl _

theorem endsWord_renderItems (depth : Nat) (items : List Value) {rest : Text}
    (hrest : EndsWord rest) : EndsWord (renderItems depth items ++ rest) := by
  cases items with
  | nil =>
      exact hrest
  | cons item items =>
      exact endsWord_cons rfl _

theorem endsWord_renderEntries (depth : Nat) (entries : List (Text × Value)) {rest : Text}
    (hrest : EndsWord rest) : EndsWord (renderEntries depth entries ++ rest) := by
  cases entries with
  | nil =>
      exact hrest
  | cons entry entries =>
      exact endsWord_cons rfl _

theorem renderItems_cons (depth : Nat) (item : Value) (items : List Value) (rest : Text) :
    renderItems depth (item :: items) ++ rest =
      ',' :: (newLine depth ++ (render depth item ++ (renderItems depth items ++ rest))) := by
  rw [renderItems]
  simp only [List.cons_append, List.append_assoc]

theorem renderEntries_cons (depth : Nat) (name : Text) (v : Value) (entries : List (Text × Value))
    (rest : Text) :
    renderEntries depth ((name, v) :: entries) ++ rest =
      ',' :: (newLine depth ++ (quotedText name ++ (':' :: ' ' :: (render depth v ++
        (renderEntries depth entries ++ rest))))) := by
  have h : renderEntries depth ((name, v) :: entries) =
      ',' :: newLine depth ++ quotedText name ++ [':', ' '] ++ render depth v ++
        renderEntries depth entries := rfl
  rw [h]
  simp only [List.cons_append, List.append_assoc, List.nil_append]

theorem render_list_cons (depth : Nat) (item : Value) (items : List Value) (rest : Text) :
    render depth (.list (item :: items)) ++ rest =
      '[' :: (newLine (depth + 1) ++ (render (depth + 1) item ++ (renderItems (depth + 1) items ++
        (newLine depth ++ (']' :: rest))))) := by
  have h : render depth (.list (item :: items)) =
      '[' :: newLine (depth + 1) ++ render (depth + 1) item ++ renderItems (depth + 1) items ++
        newLine depth ++ [']'] := rfl
  rw [h]
  simp only [List.cons_append, List.append_assoc, List.nil_append]

theorem render_table_cons (depth : Nat) (name : Text) (v : Value) (entries : List (Text × Value))
    (rest : Text) :
    render depth (.table ((name, v) :: entries)) ++ rest =
      '\x7b' :: (newLine (depth + 1) ++ (quotedText name ++ (':' :: ' ' :: (render (depth + 1) v ++
        (renderEntries (depth + 1) entries ++ (newLine depth ++ ('\x7d' :: rest))))))) := by
  have h : render depth (.table ((name, v) :: entries)) =
      '\x7b' :: newLine (depth + 1) ++ quotedText name ++ [':', ' '] ++ render (depth + 1) v ++
        renderEntries (depth + 1) entries ++ newLine depth ++ ['\x7d'] := rfl
  rw [h]
  simp only [List.cons_append, List.append_assoc, List.nil_append]

theorem tokensFrom_name (name rest : Text) :
    tokensFrom .gap (quotedText name ++ (':' :: ' ' :: rest)) =
      (tokensFrom .gap rest).map (.text name :: .colon :: ·) := by
  rw [tokensFrom_quotedText, tokensFrom_mark .colon _ rfl, tokensFrom_space _ rfl,
    Option.map_map]
  rfl

mutual

theorem tokensFrom_render (v : Value) (depth : Nat) {rest : Text} (hv : v.isIntegral = true)
    (hrest : EndsWord rest) :
    tokensFrom .gap (render depth v ++ rest) = (tokensFrom .gap rest).map (walk v ++ ·) := by
  cases v with
  | null =>
      exact tokensFrom_word (w := "null".toList) (by decide) (List.all_eq_true.mp rfl) hrest
  | bool b =>
      cases b with
      | false =>
          exact tokensFrom_word (w := "false".toList) (by decide) (List.all_eq_true.mp rfl) hrest
      | true =>
          exact tokensFrom_word (w := "true".toList) (by decide) (List.all_eq_true.mp rfl) hrest
  | integer n =>
      exact tokensFrom_word (Numeral.signedDecimal_ne_nil n) (fun _ => isInWord_of_mem_signedDecimal) hrest
  | float x =>
      cases hv
  | text t =>
      exact tokensFrom_quotedText t rest
  | list items =>
      cases items with
      | nil =>
          change tokensFrom .gap ('[' :: ']' :: rest) = _
          rw [tokensFrom_mark .leftBracket _ rfl,
            tokensFrom_mark .rightBracket _ rfl, Option.map_map]
          rfl
      | cons item items =>
          simp only [Value.isIntegral, Value.areIntegral, Bool.and_eq_true] at hv
          have hclose : EndsWord (newLine depth ++ (']' :: rest)) := endsWord_newLine depth _
          rw [render_list_cons, tokensFrom_mark .leftBracket _ rfl, tokensFrom_newLine,
            tokensFrom_render item _ hv.left (endsWord_renderItems _ items hclose),
            tokensFrom_renderItems items _ hv.right hclose, tokensFrom_newLine,
            tokensFrom_mark .rightBracket _ rfl]
          simp [walk, Option.map_map, Function.comp_def]
  | table entries =>
      cases entries with
      | nil =>
          change tokensFrom .gap ('\x7b' :: '\x7d' :: rest) = _
          rw [tokensFrom_mark .leftBrace _ rfl,
            tokensFrom_mark .rightBrace _ rfl, Option.map_map]
          rfl
      | cons entry entries =>
          rcases entry with ⟨name, v⟩
          simp only [Value.isIntegral, Value.haveIntegral, Bool.and_eq_true] at hv
          have hclose : EndsWord (newLine depth ++ ('\x7d' :: rest)) := endsWord_newLine depth _
          rw [render_table_cons, tokensFrom_mark .leftBrace _ rfl, tokensFrom_newLine,
            tokensFrom_name,
            tokensFrom_render v _ hv.left (endsWord_renderEntries _ entries hclose),
            tokensFrom_renderEntries entries _ hv.right hclose, tokensFrom_newLine,
            tokensFrom_mark .rightBrace _ rfl]
          simp [walk, Option.map_map, Function.comp_def]
termination_by structural v

theorem tokensFrom_renderItems (items : List Value) (depth : Nat) {rest : Text}
    (hitems : Value.areIntegral items = true) (hrest : EndsWord rest) :
    tokensFrom .gap (renderItems depth items ++ rest) =
      (tokensFrom .gap rest).map (walkItems items ++ ·) := by
  cases items with
  | nil =>
      exact Option.map_id'.symm
  | cons item items =>
      simp only [Value.areIntegral, Bool.and_eq_true] at hitems
      rw [renderItems_cons, tokensFrom_mark .comma _ rfl, tokensFrom_newLine,
        tokensFrom_render item _ hitems.left (endsWord_renderItems _ items hrest),
        tokensFrom_renderItems items _ hitems.right hrest]
      simp [walkItems, Option.map_map, Function.comp_def]
termination_by structural items

theorem tokensFrom_renderEntries (entries : List (Text × Value)) (depth : Nat) {rest : Text}
    (hentries : Value.haveIntegral entries = true) (hrest : EndsWord rest) :
    tokensFrom .gap (renderEntries depth entries ++ rest) =
      (tokensFrom .gap rest).map (walkEntries entries ++ ·) := by
  cases entries with
  | nil =>
      exact Option.map_id'.symm
  | cons entry entries =>
      rcases entry with ⟨name, v⟩
      simp only [Value.haveIntegral, Bool.and_eq_true] at hentries
      rw [renderEntries_cons, tokensFrom_mark .comma _ rfl, tokensFrom_newLine,
        tokensFrom_name,
        tokensFrom_render v _ hentries.left (endsWord_renderEntries _ entries hrest),
        tokensFrom_renderEntries entries _ hentries.right hrest]
      simp [walkEntries, Option.map_map, Function.comp_def]
termination_by structural entries

end

theorem tokens?_render {v : Value} (hv : v.isIntegral = true) (depth : Nat) {rest : Text}
    (hrest : ∀ c ∈ rest, isSpace c = true) : tokens? (render depth v ++ rest) = some (walk v) := by
  have hends : EndsWord rest := by
    intro c hc
    simp [isInWord, hrest c (List.mem_of_mem_head? hc)]
  have hblank : tokensFrom .gap rest = some [] := by
    have h := tokensFrom_spaces hrest []
    rw [List.append_nil] at h
    exact h
  unfold tokens?
  rw [tokensFrom_render v depth hv hends, hblank, Option.map_some, List.append_nil]

end Json
end EndpointDocs
