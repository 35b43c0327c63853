import EndpointDocs.Numeral.Decimal

/-!
# Dates and times in TOML

A moment is a date, a time, or both with or without the difference to world time.  It is kept as its
text in normal form: with a capital T between date and time, a capital Z for world time, and without
zeros at the end of the fraction of a second.
-/

namespace EndpointDocs
namespace Toml

/-- The value of a text of exactly two digits between two bounds. -/
def twoDigits? (low high : Nat) (a b : Char) : Option Nat :=
  (Numeral.digits? 10 [a, b]).filter fun n => decide (low ≤ n) && decide (n ≤ high)

/-- The number of days of a month. -/
def daysOfMonth (year month : Nat) : Nat :=
  if month = 2 then
    if year % 4 = 0 ∧ (year % 100 ≠ 0 ∨ year % 400 = 0) then 29 else 28
  else if month = 4 ∨ month = 6 ∨ month = 9 ∨ month = 11 then 30
  else 31

/-- A date at the start of a text, and what follows it. -/
def date? : Text → Option (Text × Text)
  | a :: b :: c :: d :: '-' :: e :: f :: '-' :: g :: h :: rest =>
      match Numeral.digits? 10 [a, b, c, d], twoDigits? 1 12 e f with
      | some year, some month =>
          (twoDigits? 1 (daysOfMonth year month) g h).map fun _ =>
            ([a, b, c, d, '-', e, f, '-', g, h], rest)
      | _, _ => none
  | _ => none

/-- The fraction of a second at the start of a text, in normal form, and what follows it. -/
def fraction? : Text → Option (Text × Text)
  | '.' :: rest =>
      let digits := rest.takeWhile Char.isDigit
      if digits.isEmpty then none
      else
        let kept := Text.dropEndWhile (· == '0') (digits.take 9)
        some (if kept.isEmpty then [] else '.' :: kept, rest.dropWhile Char.isDigit)
  | t => some ([], t)

/-- A time of day at the start of a text, and what follows it. -/
def time? : Text → Option (Text × Text)
  | a :: b :: ':' :: c :: d :: ':' :: e :: f :: rest =>
      match twoDigits? 0 23 a b, twoDigits? 0 59 c d, twoDigits? 0 60 e f with
      | some _, some _, some _ =>
          (fraction? rest).map fun (fraction, rest) =>
            ([a, b, ':', c, d, ':', e, f] ++ fraction, rest)
      | _, _, _ => none
  | _ => none

/-- The difference to world time, or nothing, up to the end of a text. -/
def difference? : Text → Option Text
  | [] => some []
  | ['Z'] => some ['Z']
  | ['z'] => some ['Z']
  | [sign, a, b, ':', c, d] =>
      if sign = '+' ∨ sign = '-' then
        match twoDigits? 0 23 a b, twoDigits? 0 59 c d with
        | some _, some _ => some [sign, a, b, ':', c, d]
        | _, _ => none
      else none
  | _ => none

/-- The normal form of a moment. -/
def moment? (t : Text) : Option Text :=
  match date? t with
  | some (date, []) => some date
  | some (date, c :: rest) =>
      if c = 'T' ∨ c = 't' ∨ c = ' ' then
        (time? rest).bind fun (time, rest) =>
          (difference? rest).map fun difference => date ++ 'T' :: time ++ difference
      else none
  | none =>
      match time? t with
      | some (time, []) => some time
      | _ => none

end Toml
end EndpointDocs
