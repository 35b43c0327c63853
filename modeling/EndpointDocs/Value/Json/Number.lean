import EndpointDocs.Value.Basic

/-!
# Numbers in JSON

A number is a minus sign or none, digits without a leading zero, and perhaps a fraction and an
exponent.  Without fraction and exponent it is an integer if it fits into 64 bits.  Otherwise it is
a floating-point number, of whose digits those are used that fit into 64 bits; a number too large
for a floating-point number is an error.
-/

namespace EndpointDocs
namespace Json

/-- The largest number of which all digits are used. -/
def digitLimit : Nat :=
  18446744073709551615

/-- Takes digits into a number as long as it stays within the limit; what is left is returned. -/
def takeDigits (n : Nat) : Text → Nat × Text
  | [] => (n, [])
  | c :: rest =>
      let next := 10 * n + (c.toNat - '0'.toNat)
      if next ≤ digitLimit then takeDigits next rest else (n, c :: rest)

/-- The digits of the parts of a number. -/
structure NumberParts where
  negative : Bool
  whole : Text
  fraction : Text
  exponent : Option (Bool × Text)
deriving DecidableEq, Repr

/-- The exponent that ends a number, or none at the end of the word. -/
def exponent? : Text → Option (Option (Bool × Text))
  | [] => some none
  | e :: rest =>
      if e = 'e' ∨ e = 'E' then
        let (negative, digits) :=
          match rest with
          | '-' :: digits => (true, digits)
          | '+' :: digits => (false, digits)
          | digits => (false, digits)
        if !digits.isEmpty && digits.all Char.isDigit then some (some (negative, digits)) else none
      else none

/-- The parts of a number without its sign. -/
def unsignedParts? (negative : Bool) (t : Text) : Option NumberParts :=
  let whole := t.takeWhile Char.isDigit
  let rest := t.dropWhile Char.isDigit
  if whole.isEmpty || (whole.head? == some '0' && whole.length != 1) then none
  else
    match rest with
    | '.' :: later =>
        let fraction := later.takeWhile Char.isDigit
        if fraction.isEmpty then none
        else
          (exponent? (later.dropWhile Char.isDigit)).map fun e => ⟨negative, whole, fraction, e⟩
    | later => (exponent? later).map fun e => ⟨negative, whole, [], e⟩

def numberParts? : Text → Option NumberParts
  | '-' :: rest => unsignedParts? true rest
  | t => unsignedParts? false t

namespace NumberParts

def exponentValue (p : NumberParts) : Int :=
  match p.exponent with
  | none => 0
  | some (negative, digits) =>
      let n : Int := ((Numeral.digits? 10 digits).getD 0 : Nat)
      if negative then -n else n

/-- The number as a floating-point number, unless it is too large. -/
def float? (p : NumberParts) : Option Binary64 :=
  let (n, unusedWhole) := takeDigits 0 p.whole
  let (m, unusedFraction) := takeDigits n p.fraction
  let places : Int := (unusedWhole.length : Int) - (p.fraction.length - unusedFraction.length : Nat)
  Binary64.ofDecimalInSteps? p.negative m (places + p.exponentValue)

/-- The number as a value, unless it is too large. -/
def value? (p : NumberParts) : Option Value :=
  let n : Int := ((Numeral.digits? 10 p.whole).getD 0 : Nat)
  let signed := if p.negative then -n else n
  if p.fraction.isEmpty && p.exponent.isNone && Value.isLong signed && !(p.negative && n == 0) then
    some (.integer signed)
  else p.float?.map .float

end NumberParts

def number? (word : Text) : Option Value :=
  (numberParts? word).bind NumberParts.value?

end Json
end EndpointDocs
