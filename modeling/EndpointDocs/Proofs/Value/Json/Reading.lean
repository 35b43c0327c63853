import EndpointDocs.Proofs.Value.Json.Tokens
import EndpointDocs.Value.Json.Reader

/-!
# Reading a written value

The reader takes the tokens of a value as one step: where a value may come it takes them all and
then has that value completed, whatever was open before and whatever follows.  Floating-point
numbers are left out, and a value may not be deeper than the reader goes.
-/

namespace EndpointDocs

namespace Value

mutual

/-- How many lists and tables are inside each other in a value. -/
def depth : Value → Nat
  | .list items => depthOfItems items + 1
  | .table entries => depthOfEntries entries + 1
  | _ => 0
termination_by structural v => v

def depthOfItems : List Value → Nat
  | [] => 0
  | item :: items => max (depth item) (depthOfItems items)
termination_by structural items => items

def depthOfEntries : List (Text × Value) → Nat
  | [] => 0
  | (_, v) :: entries => max (depth v) (depthOfEntries entries)
termination_by structural entries => entries

end

end Value

namespace Json

/-!
## Integers
-/

theorem unsignedParts?_decimal (negative : Bool) (n : Nat) :
    unsignedParts? negative (Numeral.decimal n) =
      some ⟨negative, Numeral.decimal n, [], none⟩ := by
  have hall : ∀ c ∈ Numeral.decimal n, c.isDigit = true := fun _ => Numeral.isDigit_of_mem_decimal
  have htake : (Numeral.decimal n).takeWhile Char.isDigit = Numeral.decimal n :=
    List.takeWhile_eq_self_iff.mpr hall
  have hdrop : (Numeral.decimal n).dropWhile Char.isDigit = [] :=
    List.dropWhile_eq_nil_iff.mpr hall
  have hempty : (Numeral.decimal n).isEmpty = false := by
    simpa using Numeral.decimal_ne_nil n
  have hzero : ((Numeral.decimal n).head? == some '0' &&
      (Numeral.decimal n).length != 1) = false := by
    by_cases hn : n = 0
    · rw [hn]
      rfl
    · rw [beq_eq_false_iff_ne.mpr (Numeral.head?_decimal_ne_zero hn)]
      rfl
  unfold unsignedParts?
  rw [htake, hdrop]
  show (if (Numeral.decimal n).isEmpty || ((Numeral.decimal n).head? == some '0' &&
    (Numeral.decimal n).length != 1) then none else _) = _
  rw [hempty, hzero]
  rfl

theorem numberParts?_decimal (n : Nat) :
    numberParts? (Numeral.decimal n) = some ⟨false, Numeral.decimal n, [], none⟩ := by
  unfold numberParts?
  split
  · next rest heq =>
      have hminus : '-'.isDigit = true :=
        Numeral.isDigit_of_mem_decimal (show '-' ∈ Numeral.decimal n by simp [heq])
      exact absurd hminus (by decide)
  · exact unsignedParts?_decimal false n

theorem value?_of_digits {negative : Bool} {n : Nat} {signed : Int}
    (hsigned : signed = if negative then -(n : Int) else n)
    (hlong : Value.isLong signed = true) (hzero : negative = true → n ≠ 0) :
    NumberParts.value? ⟨negative, Numeral.decimal n, [], none⟩ = some (.integer signed) := by
  unfold NumberParts.value?
  rw [Numeral.digits?_decimal, Option.getD_some]
  show (if (true && true && Value.isLong (if negative then -(n : Int) else n) &&
    !(negative && (n : Int) == 0)) = true then _ else _) = _
  rw [← hsigned, hlong]
  cases negative with
  | false =>
      rfl
  | true =>
      have hn : ((n : Int) == 0) = false := by
        simpa using hzero rfl
      rw [hn]
      rfl

theorem number?_signedDecimal {n : Int} (h : Value.isLong n = true) :
    number? (Numeral.signedDecimal n) = some (.integer n) := by
  cases n with
  | ofNat n =>
      have hparts : numberParts? (Numeral.signedDecimal (.ofNat n)) =
          some ⟨false, Numeral.decimal n, [], none⟩ := numberParts?_decimal n
      rw [number?, hparts, Option.bind_some]
      exact value?_of_digits rfl h (by simp)
  | negSucc n =>
      have hparts : numberParts? (Numeral.signedDecimal (.negSucc n)) =
          some ⟨true, Numeral.decimal (n + 1), [], none⟩ := unsignedParts?_decimal true (n + 1)
      rw [number?, hparts, Option.bind_some]
      exact value?_of_digits rfl h (by simp)

theorem wordValue?_signedDecimal {n : Int} (h : Value.isLong n = true) :
    wordValue? (Numeral.signedDecimal n) = some (.integer n) := by
  have hne : ∀ w : Text, 'l' ∈ w ∨ 'u' ∈ w → Numeral.signedDecimal n ≠ w := by
    rintro w hw rfl
    rcases hw with hw | hw
    · exact absurd (Numeral.isDigit_or_minus_of_mem_signedDecimal hw) (by decide)
    · exact absurd (Numeral.isDigit_or_minus_of_mem_signedDecimal hw) (by decide)
  rw [wordValue?, if_neg (hne _ (by decide)), if_neg (hne _ (by decide)),
    if_neg (hne _ (by decide))]
  exact number?_signedDecimal h

/-!
## Progress
-/

namespace Progress

variable {frames : List Frame} {rest : List Token}

theorem run_cons (p : Progress) (token : Token) (rest : List Token) :
    p.run (token :: rest) = (p.step token).bind fun q => q.run rest :=
  rfl

/-- Where an item of a list may come and there is one, it is read like any value. -/
theorem run_firstItem (v : Value) :
    run ⟨frames, .firstItem⟩ (walk v ++ rest) = run ⟨frames, .value⟩ (walk v ++ rest) := by
  have hcons : ∀ {token : Token} {tokens : List Token}, token ≠ .rightBracket →
      run ⟨frames, .firstItem⟩ (token :: tokens) = run ⟨frames, .value⟩ (token :: tokens) := by
    intro token tokens h
    rw [run_cons, run_cons]
    simp only [step, if_neg h]
  cases v with
  | list items =>
      cases items with
      | nil => exact hcons (by simp)
      | cons item items => exact hcons (by simp)
  | table entries =>
      cases entries with
      | nil => exact hcons (by simp)
      | cons entry entries => exact hcons (by simp)
  | _ => exact hcons (by simp)

theorem run_leftBracket (h : frames.length < depthLimit) :
    run ⟨frames, .value⟩ (.leftBracket :: rest) = run ⟨.items [] :: frames, .firstItem⟩ rest := by
  rw [run_cons]
  simp only [step, beginValue, open?, if_pos h, Option.bind_some]

theorem run_leftBrace (h : frames.length < depthLimit) :
    run ⟨frames, .value⟩ (.leftBrace :: rest) = run ⟨.entries [] :: frames, .firstName⟩ rest := by
  rw [run_cons]
  simp only [step, beginValue, open?, if_pos h, Option.bind_some]

theorem run_rightBracket (done : List Value) :
    run ⟨.items done :: frames, .next⟩ (.rightBracket :: rest) =
      (complete (.list done.reverse) frames).bind fun p => p.run rest :=
  rfl

theorem run_rightBrace (done : List (Text × Value)) :
    run ⟨.entries done :: frames, .next⟩ (.rightBrace :: rest) =
      (complete (.table done.reverse) frames).bind fun p => p.run rest :=
  rfl

mutual

theorem run_walk (v : Value) (frames : List Frame) (rest : List Token)
    (hv : v.isIntegral = true) (hdepth : frames.length + v.depth ≤ depthLimit) :
    run ⟨frames, .value⟩ (walk v ++ rest) = (complete v frames).bind fun p => p.run rest := by
  cases v with
  | null =>
      rfl
  | bool b =>
      cases b with
      | false => rfl
      | true => rfl
  | integer n =>
      have hword : walk (.integer n) = [.word (Numeral.signedDecimal n)] := rfl
      rw [hword, List.singleton_append, run_cons]
      simp only [step, beginValue, wordValue?_signedDecimal hv, Option.bind_some]
  | float x =>
      cases hv
  | text t =>
      rfl
  | list items =>
      have hopen : frames.length < depthLimit := by
        simp only [Value.depth] at hdepth
        omega
      cases items with
      | nil =>
          show run ⟨frames, .value⟩ (.leftBracket :: .rightBracket :: rest) = _
          rw [run_leftBracket hopen]
          rfl
      | cons item items =>
          simp only [Value.isIntegral, Value.areIntegral, Bool.and_eq_true] at hv
          simp only [Value.depth, Value.depthOfItems] at hdepth
          rw [walk, List.cons_append, List.append_assoc, List.append_assoc,
            run_leftBracket hopen, run_firstItem,
            run_walk item (.items [] :: frames) _ hv.left (by rw [List.length_cons]; omega)]
          show run ⟨.items [item] :: frames, .next⟩ _ = _
          rw [run_walkItems items [item] frames _ hv.right (by omega), List.singleton_append,
            run_rightBracket, List.reverse_append, List.reverse_reverse]
          rfl
  | table entries =>
      have hopen : frames.length < depthLimit := by
        simp only [Value.depth] at hdepth
        omega
      cases entries with
      | nil =>
          show run ⟨frames, .value⟩ (.leftBrace :: .rightBrace :: rest) = _
          rw [run_leftBrace hopen]
          rfl
      | cons entry entries =>
          rcases entry with ⟨name, v⟩
          simp only [Value.isIntegral, Value.haveIntegral, Bool.and_eq_true] at hv
          simp only [Value.depth, Value.depthOfEntries] at hdepth
          rw [walk, List.cons_append, run_leftBrace hopen]
          show run ⟨.entry [] name :: frames, .value⟩ ((walk v ++ _) ++ rest) = _
          rw [List.append_assoc, List.append_assoc,
            run_walk v (.entry [] name :: frames) _ hv.left (by rw [List.length_cons]; omega)]
          show run ⟨.entries [(name, v)] :: frames, .next⟩ _ = _
          rw [run_walkEntries entries [(name, v)] frames _ hv.right (by omega),
            List.singleton_append, run_rightBrace, List.reverse_append, List.reverse_reverse]
          rfl
termination_by structural v

theorem run_walkItems (items done : List Value) (frames : List Frame) (rest : List Token)
    (hitems : Value.areIntegral items = true)
    (hdepth : frames.length + 1 + Value.depthOfItems items ≤ depthLimit) :
    run ⟨.items done :: frames, .next⟩ (walkItems items ++ rest) =
      run ⟨.items (items.reverse ++ done) :: frames, .next⟩ rest := by
  cases items with
  | nil =>
      rfl
  | cons item items =>
      simp only [Value.areIntegral, Bool.and_eq_true] at hitems
      simp only [Value.depthOfItems] at hdepth
      show run ⟨.items done :: frames, .value⟩ ((walk item ++ walkItems items) ++ rest) = _
      rw [List.append_assoc,
        run_walk item (.items done :: frames) _ hitems.left (by rw [List.length_cons]; omega)]
      show run ⟨.items (item :: done) :: frames, .next⟩ _ = _
      rw [run_walkItems items (item :: done) frames rest hitems.right (by omega),
        List.reverse_cons, List.append_assoc, List.singleton_append]
termination_by structural items

theorem run_walkEntries (entries done : List (Text × Value)) (frames : List Frame)
    (rest : List Token) (hentries : Value.haveIntegral entries = true)
    (hdepth : frames.length + 1 + Value.depthOfEntries entries ≤ depthLimit) :
    run ⟨.entries done :: frames, .next⟩ (walkEntries entries ++ rest) =
      run ⟨.entries (entries.reverse ++ done) :: frames, .next⟩ rest := by
  cases entries with
  | nil =>
      rfl
  | cons entry entries =>
      rcases entry with ⟨name, v⟩
      simp only [Value.haveIntegral, Bool.and_eq_true] at hentries
      simp only [Value.depthOfEntries] at hdepth
      show run ⟨.entry done name :: frames, .value⟩ ((walk v ++ walkEntries entries) ++ rest) = _
      rw [List.append_assoc,
        run_walk v (.entry done name :: frames) _ hentries.left (by rw [List.length_cons]; omega)]
      show run ⟨.entries ((name, v) :: done) :: frames, .next⟩ _ = _
      rw [run_walkEntries entries ((name, v) :: done) frames rest hentries.right (by omega),
        List.reverse_cons, List.append_assoc, List.singleton_append]
termination_by structural entries

end

end Progress

/-- A value that is written, with spaces behind it or not, is read. -/
theorem read?_render {v : Value} (hv : v.isIntegral = true) (hdepth : v.depth ≤ depthLimit)
    (depth : Nat) {rest : Text} (hrest : ∀ c ∈ rest, isSpace c = true) :
    read? (render depth v ++ rest) = some v := by
  have hrun := Progress.run_walk v [] [] hv (by simpa using hdepth)
  rw [List.append_nil] at hrun
  unfold read?
  rw [tokens?_render hv depth hrest, Option.bind_some, hrun]
  rfl

end Json
end EndpointDocs
