import EndpointDocs.Numeral.Shortest

/-!
# Structured values

A structured value is what a data format such as JSON can say: nothing, a truth value, a number, a
text, a list of values, or a table of named values.  Documents are written as such values, and
settings files are read as such.

## Tables

A table keeps its entries as they were written.  Where a name occurs more than once, the last entry
counts.
-/

namespace EndpointDocs

/-- A value of a data format. -/
inductive Value where
  | null
  | bool (b : Bool)
  | integer (n : Int)
  | float (x : Binary64)
  | text (t : Text)
  | list (items : List Value)
  | table (entries : List (Text × Value))
deriving Repr, Inhabited

namespace Value

/-- The last entry of this name. -/
def lookup? (name : Text) : List (Text × Value) → Option Value
  | [] => none
  | (key, v) :: rest => (lookup? name rest).or (if key = name then some v else none)

/-- Whether an integer fits into 64 bits with a sign. -/
def isLong (n : Int) : Bool :=
  decide (-9223372036854775808 ≤ n) && decide (n ≤ 9223372036854775807)

end Value
end EndpointDocs
