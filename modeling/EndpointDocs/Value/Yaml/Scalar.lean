import EndpointDocs.Value.Basic

/-!
# Scalars of YAML

A text without quotes says nothing, a truth value, a number, or itself.  Integers are decimal with a
sign or none, or hexadecimal behind `0x` or octal behind `0o`, and fit into 64 bits.  Words for
infinite numbers and for what is no number are numbers too, in letters of any case, but not with a
dot before them: such words are refused.
-/

namespace EndpointDocs
namespace Yaml

/-- The sign before a number: whether it is a minus, and the rest. -/
def sign : Text → Bool × Text
  | '-' :: rest => (true, rest)
  | '+' :: rest => (false, rest)
  | t => (false, t)

/-- An integer of a base, with a sign or without. -/
def signed? (base : Nat) (t : Text) : Option Int :=
  ((Numeral.digits? base (sign t).2).map fun n => if (sign t).1 then -(n : Int) else n).filter
    Value.isLong

def integer? (t : Text) : Option Int :=
  let based :=
    match t with
    | '0' :: 'x' :: digits => signed? 16 digits
    | '0' :: 'o' :: digits => signed? 8 digits
    | _ => none
  based.or (signed? 10 t)

/-- The exponent of a number, from its letter on; nothing is zero. -/
def exponent? : Text → Option Int
  | [] => some 0
  | e :: rest =>
      if e = 'e' ∨ e = 'E' then
        (Numeral.digits? 10 (sign rest).2).map fun n => if (sign rest).1 then -(n : Int) else n
      else none

/-- A floating-point number in digits: a fraction may lack its whole part or its places, but not
both. -/
def decimalFloat? (t : Text) : Option Binary64 :=
  let digits := (sign t).2
  let whole := digits.takeWhile Char.isDigit
  let later := digits.dropWhile Char.isDigit
  let (fraction, power) :=
    match later with
    | '.' :: rest => (rest.takeWhile Char.isDigit, rest.dropWhile Char.isDigit)
    | rest => ([], rest)
  match Numeral.digits? 10 (whole ++ fraction), exponent? power with
  | some n, some e => some (.ofDecimal (sign t).1 n (e - fraction.length))
  | _, _ => none

def float? (t : Text) : Option Binary64 :=
  let word := (sign t).2.map Char.toLower
  if word = "inf".toList ∨ word = "infinity".toList then some (.infinite (sign t).1)
  else if word = "nan".toList then some .nan
  else decimalFloat? t

/-- The words for infinite numbers and for what is no number that are refused. -/
def refusedWords : List Text :=
  [".inf".toList, ".Inf".toList, ".INF".toList, "+.inf".toList, "+.Inf".toList, "+.INF".toList,
   "-.inf".toList, "-.Inf".toList, "-.INF".toList, ".nan".toList, ".NAN".toList]

/-- What a text without quotes says. -/
def plainValue? (t : Text) : Option Value :=
  if refusedWords.contains t then none
  else if t = [] ∨ t = "~".toList ∨ t = "null".toList then some .null
  else if t = "true".toList then some (.bool true)
  else if t = "false".toList then some (.bool false)
  else
    match integer? t, float? t with
    | some n, _ => some (.integer n)
    | none, some x => some (.float x)
    | none, none => some (.text t)

/-- The key that a value gives, if it may be one. -/
def keyOf? : Value → Option Text
  | .text t => some t
  | .integer n => some (Numeral.signedDecimal n)
  | _ => none

end Yaml
end EndpointDocs
