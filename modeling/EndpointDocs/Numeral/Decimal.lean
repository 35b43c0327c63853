import EndpointDocs.Text.Basic

/-!
# Decimal numerals

Status codes, counts and numbers in settings are written in the digits 0 to 9.  A numeral may have
any number of leading zeros when it is read and has none when it is written.
-/

namespace EndpointDocs
namespace Numeral

def decimal (n : Nat) : Text :=
  Nat.toDigits 10 n

def signedDecimal : Int → Text
  | .ofNat n => decimal n
  | .negSucc n => '-' :: decimal (n + 1)

/-- The value of a digit in the bases up to sixteen; letters may be large or small. -/
def digitValue? (c : Char) : Option Nat :=
  if c.isDigit then some (c.toNat - '0'.toNat)
  else if 'a' ≤ c ∧ c ≤ 'f' then some (c.toNat - 'a'.toNat + 10)
  else if 'A' ≤ c ∧ c ≤ 'F' then some (c.toNat - 'A'.toNat + 10)
  else none

/-- The power of two of an integer exponent; a negative one gives the power of zero, which is one. -/
def twoTo (e : Int) : Nat :=
  Nat.pow 2 e.toNat

/-- The power of ten of an integer exponent; a negative one gives the power of zero, which is one. -/
def tenTo (e : Int) : Nat :=
  Nat.pow 10 e.toNat

/-- Reads digits of a base after those that gave `value`. -/
def digitsFrom? (base value : Nat) : Text → Option Nat
  | [] => some value
  | c :: rest =>
      match digitValue? c with
      | some d => if d < base then digitsFrom? base (base * value + d) rest else none
      | none => none

/-- The value of one or more digits of a base. -/
def digits? (base : Nat) (t : Text) : Option Nat :=
  if t.isEmpty then none else digitsFrom? base 0 t

/-- The value of a numeral of one or more decimal digits, after a plus sign or not, that is at most
`limit`. -/
def upTo? (limit : Nat) (t : Text) : Option Nat :=
  let unsigned :=
    match t with
    | '+' :: rest => rest
    | _ => t
  (digits? 10 unsigned).filter fun n => decide (n ≤ limit)

end Numeral
end EndpointDocs
