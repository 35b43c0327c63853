import EndpointDocs.Numeral.Binary64

/-!
# Shortest decimal text

A floating-point number is written with as few decimal digits as suffice to find it again: the
digits of a decimal number that is nearer to it than to any other floating-point number.  Among
those of the same length the nearest one is taken, and of two the larger.

## Positional notation

There is no exponent: very large and very small numbers have as many zeros as they need.  A number
without a fraction has no point.
-/

namespace EndpointDocs
namespace Binary64

/-- The numbers that are read as a given finite one: from `low / den` to `high / den`, around
`value / den`, with both ends or without them. -/
structure Neighbourhood where
  low : Nat
  value : Nat
  high : Nat
  den : Nat
  closed : Bool

/-- The numbers that are read as `m * 2 ^ e`. -/
def neighbourhood (m : Nat) (e : Int) : Neighbourhood :=
  let below := if 2 * m = mantissaLimit ∧ -1074 < e then 1 else 2
  let unit := Numeral.twoTo (e - 2)
  ⟨(4 * m - below) * unit, 4 * m * unit, (4 * m + 2) * unit, Numeral.twoTo (2 - e), m % 2 == 0⟩

namespace Neighbourhood

/-- Whether `n * 10 ^ k` is read as the number. -/
def holds (b : Neighbourhood) (n : Nat) (k : Int) : Bool :=
  let x := n * Numeral.tenTo k * b.den
  let unit := Numeral.tenTo (-k)
  if b.closed then decide (b.low * unit ≤ x) && decide (x ≤ b.high * unit)
  else decide (b.low * unit < x) && decide (x < b.high * unit)

/-- The multiple of `10 ^ k` that is read as the number and nearest to it, as its factor. -/
def onGrid? (b : Neighbourhood) (k : Int) : Option Nat :=
  let num := b.value * Numeral.tenTo (-k)
  let den := b.den * Numeral.tenTo k
  let floor := num / den
  match b.holds floor k, b.holds (floor + 1) k with
  | true, true => some (if den ≤ 2 * (num % den) then floor + 1 else floor)
  | true, false => some floor
  | false, true => some (floor + 1)
  | false, false => none

/-- The coarsest decimal number that is read as the number: a factor and a power of ten. -/
def shortest? (b : Neighbourhood) : Option (Nat × Int) :=
  (List.range 700).findSome? fun (i : Nat) =>
    let k := 310 - (i : Int)
    (b.onGrid? k).map fun n => (n, k)

end Neighbourhood

def positional (n : Nat) (k : Int) : Text :=
  let digits := Numeral.decimal n
  if 0 ≤ k then digits ++ List.replicate k.toNat '0'
  else
    let places := (-k).toNat
    let padded := List.replicate (places + 1 - digits.length) '0' ++ digits
    padded.take (padded.length - places) ++ '.' :: padded.drop (padded.length - places)

def magnitudeText (m : Nat) (e : Int) : Text :=
  match if m = 0 then none else (neighbourhood m e).shortest? with
  | some (n, k) => positional n k
  | none => ['0']

def text : Binary64 → Text
  | .nan => "NaN".toList
  | .infinite negative => if negative then "-inf".toList else "inf".toList
  | .finite negative m e => if negative then '-' :: magnitudeText m e else magnitudeText m e

end Binary64
end EndpointDocs
