import EndpointDocs.Numeral.Decimal

/-!
# Binary floating point

A number in a settings file that is no integer is kept as a binary floating-point number of 64 bits:
a mantissa of at most 53 bits times a power of two of exponent -1074 or more.  All arithmetic is
exact on natural numbers, and each result is rounded once, to the nearest number and to the one with
an even mantissa when two are equally near.
-/

namespace EndpointDocs

/-- A floating-point number of 64 bits.  A finite one is `mantissa * 2 ^ exponent`, with a sign. -/
inductive Binary64 where
  | nan
  | infinite (negative : Bool)
  | finite (negative : Bool) (mantissa : Nat) (exponent : Int)
deriving DecidableEq, Repr

namespace Binary64

/-- The first number that is too large for a mantissa. -/
def mantissaLimit : Nat :=
  9007199254740992

def zero (negative : Bool) : Binary64 :=
  .finite negative 0 (-1074)

/-- Numerator and denominator of `num / den / 2 ^ e`. -/
def scaleDown (num den : Nat) (e : Int) : Nat × Nat :=
  (num * Numeral.twoTo (-e), den * Numeral.twoTo e)

/-- The integer nearest to `num / den`; of two the even one. -/
def nearest (num den : Nat) : Nat :=
  let q := num / den
  let r := num % den
  if den < 2 * r ∨ (den = 2 * r ∧ q % 2 = 1) then q + 1 else q

/-- The exponent at which `num / den` has a mantissa of 53 bits, or the least exponent. -/
def exponentFor (num den : Nat) : Int :=
  let e : Int := (num.log2 : Int) - (den.log2 : Int) - 53
  let scaled := scaleDown num den e
  max (-1074) (if mantissaLimit ≤ scaled.1 / scaled.2 then e + 1 else e)

/-- The number nearest to `num / den`, with a sign. -/
def round (negative : Bool) (num den : Nat) : Binary64 :=
  if num = 0 then zero negative
  else
    let e := exponentFor num den
    let scaled := scaleDown num den e
    let m := nearest scaled.1 scaled.2
    let (m, e) := if m = mantissaLimit then (mantissaLimit / 2, e + 1) else (m, e)
    if 971 < e then .infinite negative else .finite negative m e

/-- The number nearest to `digits * 10 ^ exponent`, with a sign. -/
def ofDecimal (negative : Bool) (digits : Nat) (exponent : Int) : Binary64 :=
  let magnitude : Int := exponent + (Numeral.decimal digits).length
  if digits = 0 ∨ magnitude < -330 then zero negative
  else if 310 < magnitude then .infinite negative
  else round negative (digits * Numeral.tenTo exponent) (Numeral.tenTo (-exponent))

def isNonzero : Binary64 → Bool
  | .finite _ m _ => m != 0
  | _ => true

def isInfinite : Binary64 → Bool
  | .infinite _ => true
  | _ => false

/-!
# Scaling by powers of ten

Some readers scale the digits of a number in rounded steps: the digits are rounded, then the power
of ten, and then their product or quotient.
-/

/-- The rounded product of the magnitudes of two finite numbers. -/
def timesMagnitude (m n : Nat) (e f : Int) : Binary64 :=
  let scaled := scaleDown (m * n) 1 (-(e + f))
  round false scaled.1 scaled.2

/-- The rounded quotient of the magnitudes of two finite numbers. -/
def overMagnitude (m n : Nat) (e f : Int) : Binary64 :=
  let scaled := scaleDown m n (f - e)
  round false scaled.1 scaled.2

/-- A finite number without its sign, times or divided by `10 ^ |exponent|`. -/
def scaledOnce (x : Binary64) (exponent : Int) : Binary64 :=
  match x, ofDecimal false 1 exponent.natAbs with
  | .finite _ m e, .finite _ n f =>
      if 0 ≤ exponent then timesMagnitude m n e f else overMagnitude m n e f
  | y, _ => y

/-- A finite number without its sign, scaled by `10 ^ exponent` in steps of at most 308 places;
none if it becomes too large. -/
def scaledBy? (steps : Nat) (x : Binary64) (exponent : Int) : Option Binary64 :=
  if exponent.natAbs ≤ 308 then
    some (scaledOnce x exponent) |>.filter fun y => !y.isInfinite
  else if !x.isNonzero then some x
  else if 0 ≤ exponent then none
  else
    match steps with
    | 0 => some (zero false)
    | n + 1 => scaledBy? n (scaledOnce x (-308)) (exponent + 308)

def withSign (negative : Bool) : Binary64 → Binary64
  | .nan => .nan
  | .infinite _ => .infinite negative
  | .finite _ m e => .finite negative m e

/-- `digits * 10 ^ exponent` rounded step by step, unless it is too large. -/
def ofDecimalInSteps? (negative : Bool) (digits : Nat) (exponent : Int) : Option Binary64 :=
  (scaledBy? 4 (round false digits 1) exponent).map (withSign negative)

end Binary64
end EndpointDocs
