import EndpointDocs.Value.Basic

/-!
# Numbers in TOML

Integers are written in decimal digits with a sign or none, or behind `0x`, `0o` or `0b` in other
bases.  Floating-point numbers have a fraction, an exponent or both, or are `inf` or `nan`.  A low
line may stand between two digits.  Integers that do not fit into 64 bits are errors, and so are
positive numbers too large for a floating-point number.
-/

namespace EndpointDocs
namespace Toml

/-- The digits of a base without the low lines between them; each low line must have a digit on
either side.  `before` tells whether a digit comes before the text. -/
def digitsFrom? (base : Nat) (before : Bool) : Text → Option Text
  | [] => if before then some [] else none
  | c :: rest =>
      if c = '_' then if before then digitsFrom? base false rest else none
      else
        match Numeral.digitValue? c with
        | some d => if d < base then (digitsFrom? base true rest).map (c :: ·) else none
        | none => none

/-- One or more digits of a base, without the low lines between them. -/
def digits? (base : Nat) (t : Text) : Option Text :=
  digitsFrom? base false t

/-- The sign before a number: whether it is a minus, and the rest. -/
def sign : Text → Bool × Text
  | '-' :: rest => (true, rest)
  | '+' :: rest => (false, rest)
  | t => (false, t)

/-- Decimal digits without a leading zero. -/
def whole? (t : Text) : Option Text :=
  (digits? 10 t).filter fun digits => digits.length == 1 || digits.head? != some '0'

def valueOf (base : Nat) (digits : Text) : Nat :=
  (Numeral.digits? base digits).getD 0

/-- An integer that fits into 64 bits. -/
def long? (n : Int) : Option Value :=
  if Value.isLong n then some (.integer n) else none

def integer? (t : Text) : Option Value :=
  match t with
  | '0' :: 'x' :: digits => (digits? 16 digits).bind fun ds => long? (valueOf 16 ds)
  | '0' :: 'o' :: digits => (digits? 8 digits).bind fun ds => long? (valueOf 8 ds)
  | '0' :: 'b' :: digits => (digits? 2 digits).bind fun ds => long? (valueOf 2 ds)
  | _ =>
      (whole? (sign t).2).bind fun ds =>
        long? (if (sign t).1 then -(valueOf 10 ds : Int) else valueOf 10 ds)

/-- The exponent of a number, from its letter on; nothing is zero. -/
def exponent? : Text → Option Int
  | [] => some 0
  | _ :: rest =>
      (digits? 10 (sign rest).2).map fun ds =>
        if (sign rest).1 then -(valueOf 10 ds : Int) else valueOf 10 ds

/-- Whether a character begins an exponent. -/
def isExponentMark (c : Char) : Bool :=
  c == 'e' || c == 'E'

/-- A floating-point number in digits. -/
def decimalFloat? (t : Text) : Option Binary64 :=
  let negative := (sign t).1
  let mantissa := (sign t).2.takeWhile fun c => !isExponentMark c
  let power := (sign t).2.dropWhile fun c => !isExponentMark c
  let whole := mantissa.takeWhile (· != '.')
  match whole? whole, mantissa.dropWhile (· != '.'), exponent? power with
  | some ds, [], some e =>
      if power.isEmpty then none else some (.ofDecimal negative (valueOf 10 ds) e)
  | some ds, _ :: fraction, some e =>
      (digits? 10 fraction).map fun fs =>
        .ofDecimal negative (valueOf 10 (ds ++ fs)) (e - fs.length)
  | _, _, _ => none

def float? (t : Text) : Option Value :=
  if (sign t).2 = "inf".toList then some (.float (.infinite (sign t).1))
  else if (sign t).2 = "nan".toList then some (.float .nan)
  else ((decimalFloat? t).filter fun x => decide (x ≠ .infinite false)).map .float

end Toml
end EndpointDocs
