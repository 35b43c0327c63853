import EndpointDocs.Text.Blank
import EndpointDocs.Text.Word

/-!
# Blank characters and word characters

There are twenty-five blank characters, and none of them is a word character.
-/

namespace EndpointDocs
namespace Text

/-- The code points of the blank characters. -/
def blankCodes : List Nat :=
  [0x9, 0xA, 0xB, 0xC, 0xD, 0x20, 0x85, 0xA0, 0x1680, 0x2000, 0x2001, 0x2002, 0x2003, 0x2004,
   0x2005, 0x2006, 0x2007, 0x2008, 0x2009, 0x200A, 0x2028, 0x2029, 0x202F, 0x205F, 0x3000]

theorem toNat_mem_blankCodes {c : Char} (h : isBlank c = true) : c.toNat ∈ blankCodes := by
  rcases inRanges_eq_true_iff.mp h with ⟨range, hrange, hlow, hhigh⟩
  simp only [blanks, List.mem_cons, List.not_mem_nil, or_false] at hrange
  simp only [blankCodes, List.mem_cons, List.not_mem_nil, or_false]
  rcases hrange with h | h | h | h | h | h | h | h | h | h <;>
    (rw [h] at hlow hhigh; simp only at hlow hhigh; omega)

theorem isWord_ofNat_of_mem_blankCodes : ∀ n ∈ blankCodes, isWord (Char.ofNat n) = false := by
  decide +kernel

theorem isBlank_eq_false_of_isWord {c : Char} (h : isWord c = true) : isBlank c = false := by
  cases hblank : isBlank c with
  | false =>
      rfl
  | true =>
      have hword := isWord_ofNat_of_mem_blankCodes c.toNat (toNat_mem_blankCodes hblank)
      rw [Char.ofNat_toNat, h] at hword
      cases hword

theorem isWord_of_isDigit {c : Char} (h : c.isDigit = true) : isWord c = true := by
  have hcode : c.toNat < 0x80 := by
    simp only [Char.isDigit, Bool.and_eq_true, decide_eq_true_eq, UInt32.le_iff_toNat_le] at h
    have hhigh : c.toNat ≤ 57 := h.right
    omega
  simp [isWord, hcode, Char.isAlphanum, h]

end Text
end EndpointDocs
