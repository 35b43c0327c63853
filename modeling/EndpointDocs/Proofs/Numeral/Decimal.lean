import EndpointDocs.Numeral.Decimal
import EndpointDocs.Proofs.Text.Characters
import EndpointDocs.Proofs.Text.Ends

/-!
# Reading decimal numerals

The digits of a number are read from left to right, so a numeral that is written gives its number.
What is read is one or more digits with a plus sign before them or not, and nothing else.
-/

namespace EndpointDocs
namespace Numeral

/-!
# Values of digits
-/

theorem digitValue?_of_isDigit {c : Char} (h : c.isDigit = true) :
    digitValue? c = some (c.toNat - '0'.toNat) := by
  rw [digitValue?, if_pos h]

theorem isDigit_of_digitValue? {c : Char} {d : Nat} (h : digitValue? c = some d) (hd : d < 10) :
    c.isDigit = true := by
  unfold digitValue? at h
  split at h
  · next hdigit =>
      exact hdigit
  · split at h
    · injection h with h
      omega
    · split at h
      · injection h with h
        omega
      · cases h

theorem digitsFrom?_eq_ofDigitChars {t : Text} (h : ∀ c ∈ t, c.isDigit = true) (value : Nat) :
    digitsFrom? 10 value t = some (Nat.ofDigitChars 10 t value) := by
  induction t generalizing value with
  | nil =>
      rw [digitsFrom?, Nat.ofDigitChars_nil]
  | cons c rest ih =>
      have hc : c.isDigit = true := h c (by simp)
      have hbound : c.toNat - '0'.toNat < 10 := by
        simp only [Char.isDigit, Bool.and_eq_true, decide_eq_true_eq, UInt32.le_iff_toNat_le] at hc
        have hhigh : c.toNat ≤ 57 := hc.right
        change c.toNat - 48 < 10
        omega
      rw [digitsFrom?, digitValue?_of_isDigit hc]
      simp only [hbound, if_true]
      rw [ih (fun d hd => h d (by simp [hd])), Nat.ofDigitChars_cons]

theorem isDigit_of_digitsFrom? {t : Text} {value n : Nat} (h : digitsFrom? 10 value t = some n) :
    ∀ c ∈ t, c.isDigit = true := by
  induction t generalizing value with
  | nil =>
      exact List.forall_mem_nil _
  | cons c rest ih =>
      rw [digitsFrom?] at h
      cases hc : digitValue? c with
      | none =>
          simp [hc] at h
      | some d =>
          by_cases hd : d < 10
          · simp only [hc, hd, if_true] at h
            exact List.forall_mem_cons.mpr ⟨isDigit_of_digitValue? hc hd, ih h⟩
          · simp [hc, hd] at h

theorem digits?_eq_some_iff {t : Text} {n : Nat} :
    digits? 10 t = some n ↔
      t ≠ [] ∧ (∀ c ∈ t, c.isDigit = true) ∧ Nat.ofDigitChars 10 t 0 = n := by
  cases t with
  | nil =>
      simp [digits?]
  | cons c rest =>
      change digitsFrom? 10 0 (c :: rest) = some n ↔ _
      constructor
      · intro h
        have hdigits := isDigit_of_digitsFrom? h
        rw [digitsFrom?_eq_ofDigitChars hdigits] at h
        exact ⟨List.cons_ne_nil c rest, hdigits, Option.some.inj h⟩
      · intro h
        rcases h with ⟨-, hdigits, hvalue⟩
        rw [digitsFrom?_eq_ofDigitChars hdigits, hvalue]

/-!
# Texts that are numerals
-/

/-- Whether a text is a numeral of this value: one or more digits, after a plus sign or not. -/
def Denotes (t : Text) (n : Nat) : Prop :=
  ∃ digits, (t = digits ∨ t = '+' :: digits) ∧ digits ≠ [] ∧ (∀ c ∈ digits, c.isDigit = true) ∧
    Nat.ofDigitChars 10 digits 0 = n

theorem upTo?_of_plus (limit : Nat) (digits : Text) :
    upTo? limit ('+' :: digits) = (digits? 10 digits).filter fun n => decide (n ≤ limit) := rfl

theorem upTo?_of_not_plus {t : Text} (h : ∀ rest, t ≠ '+' :: rest) (limit : Nat) :
    upTo? limit t = (digits? 10 t).filter fun n => decide (n ≤ limit) := by
  unfold upTo?
  split
  · next rest =>
      exact absurd rfl (h rest)
  · rfl

theorem denotes_plus_iff {digits : Text} {n : Nat} :
    Denotes ('+' :: digits) n ↔ digits? 10 digits = some n := by
  rw [digits?_eq_some_iff]
  constructor
  · -- Another plus sign behind the first is no digit.
    intro h
    rcases h with ⟨digits', hsign, hread⟩
    rcases hsign with hbare | hplus
    · have hdigit : '+'.isDigit = true :=
        hread.right.left '+' (by rw [← hbare]; exact List.mem_cons_self)
      cases hdigit
    · injection hplus with _ hsame
      rw [hsame]
      exact hread
  · intro hread
    exact ⟨digits, Or.inr rfl, hread⟩

theorem denotes_iff_of_not_plus {t : Text} (h : ∀ rest, t ≠ '+' :: rest) {n : Nat} :
    Denotes t n ↔ digits? 10 t = some n := by
  rw [digits?_eq_some_iff]
  constructor
  · intro hdenotes
    rcases hdenotes with ⟨digits, hsign, hread⟩
    rcases hsign with hbare | hplus
    · rw [hbare]
      exact hread
    · exact absurd hplus (h digits)
  · intro hread
    exact ⟨t, Or.inl rfl, hread⟩

theorem upTo?_eq_some_iff {limit n : Nat} {t : Text} :
    upTo? limit t = some n ↔ Denotes t n ∧ n ≤ limit := by
  by_cases hplus : ∃ digits, t = '+' :: digits
  · rcases hplus with ⟨digits, rfl⟩
    rw [upTo?_of_plus, Option.filter_eq_some_iff, denotes_plus_iff, decide_eq_true_eq]
  · have hbare : ∀ rest, t ≠ '+' :: rest := fun rest heq => hplus ⟨rest, heq⟩
    rw [upTo?_of_not_plus hbare, Option.filter_eq_some_iff, denotes_iff_of_not_plus hbare,
      decide_eq_true_eq]

/-!
# Digits of written numbers
-/

theorem isDigit_of_mem_decimal {n : Nat} {c : Char} (h : c ∈ decimal n) : c.isDigit = true :=
  Nat.isDigit_of_mem_toDigits (by decide) (by decide) h

theorem decimal_ne_nil (n : Nat) : decimal n ≠ [] :=
  Nat.toDigits_ne_nil

theorem digits?_decimal (n : Nat) : digits? 10 (decimal n) = some n :=
  digits?_eq_some_iff.mpr ⟨decimal_ne_nil n, fun _ => isDigit_of_mem_decimal,
    Nat.ofDigitChars_ten_toDigits⟩

theorem denotes_decimal (n : Nat) : Denotes (decimal n) n :=
  ⟨decimal n, Or.inl rfl, digits?_eq_some_iff.mp (digits?_decimal n)⟩

/-- Only zero is written with a zero in front. -/
theorem head?_decimal_ne_zero {n : Nat} (h : n ≠ 0) : (decimal n).head? ≠ some '0' := by
  induction n using Nat.strongRecOn with
  | ind n ih =>
      by_cases hn : n < 10
      · have hdigit : ∀ m < 10, m ≠ 0 → [Nat.digitChar m].head? ≠ some '0' := by decide
        rw [decimal, Nat.toDigits_of_lt_base hn]
        exact hdigit n hn h
      · have hfront : n / 10 ≠ 0 := by omega
        have hsplit : decimal n = decimal (n / 10) ++ decimal (n % 10) := by
          unfold decimal
          rw [Nat.toDigits_append_toDigits (by decide) (by omega) (by omega), Nat.div_add_mod]
        rw [hsplit, List.head?_append_of_ne_nil _ (decimal_ne_nil _)]
        exact ih (n / 10) (by omega) hfront

theorem isBlank_eq_false_of_mem_decimal {n : Nat} {c : Char} (h : c ∈ decimal n) :
    Text.isBlank c = false :=
  Text.isBlank_eq_false_of_isWord (Text.isWord_of_isDigit (isDigit_of_mem_decimal h))

theorem trim_decimal (n : Nat) : Text.trim (decimal n) = decimal n := by
  apply Text.trim_eq_self
  · intro c hc
    exact isBlank_eq_false_of_mem_decimal (List.mem_of_mem_head? hc)
  · intro c hc
    exact isBlank_eq_false_of_mem_decimal (List.mem_of_mem_getLast? hc)

theorem allBlank_decimal (n : Nat) : Text.allBlank (decimal n) = false := by
  rcases List.exists_mem_of_ne_nil _ (decimal_ne_nil n) with ⟨c, hc⟩
  exact Text.allBlank_eq_false_of_mem hc (isBlank_eq_false_of_mem_decimal hc)

theorem lineFeed_not_mem_decimal (n : Nat) : '\n' ∉ decimal n := by
  intro hmem
  exact absurd (isDigit_of_mem_decimal hmem) (by decide)

theorem signedDecimal_ne_nil (n : Int) : signedDecimal n ≠ [] := by
  cases n with
  | ofNat n => exact decimal_ne_nil n
  | negSucc n => exact List.cons_ne_nil _ _

theorem isDigit_or_minus_of_mem_signedDecimal {n : Int} {c : Char}
    (h : c ∈ signedDecimal n) : c.isDigit = true ∨ c = '-' := by
  cases n with
  | ofNat n =>
      exact Or.inl (isDigit_of_mem_decimal h)
  | negSucc n =>
      rcases List.mem_cons.mp h with hminus | hdigit
      · exact Or.inr hminus
      · exact Or.inl (isDigit_of_mem_decimal hdigit)

end Numeral
end EndpointDocs
