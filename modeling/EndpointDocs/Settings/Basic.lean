import EndpointDocs.Document.Format
import EndpointDocs.Path.Basic
import EndpointDocs.Text.Lowercase
import EndpointDocs.Text.Quoted
import EndpointDocs.Value.Basic

/-!
# Settings

A run has three settings: whether it is strict, the format of its documents, and a path for one
document about everything instead of one for each input.  A setting is given as a structured value
and has to be of a fitting kind.

## Kinds of values

A truth value may be given as such, as a number, where zero is false, or as one of a few words in
letters of any case.  A text may be given as a truth value or a number too, which then stands for
its usual notation.  Other kinds of values are errors, which tell where the value comes from.
-/

namespace EndpointDocs

structure Settings where
  strict : Bool
  format : Format
  out : Option Path
deriving DecidableEq, Repr

namespace Settings

inductive Key where
  | strict | format | out
deriving DecidableEq, Repr

namespace Key

def name : Key → Text
  | strict => "strict".toList
  | format => "format".toList
  | out => "out".toList

end Key

/-- A value with the place that it comes from, if that is told in errors. -/
structure Given where
  value : Value
  origin : Option Text := none
deriving Repr

inductive Wanted where
  | boolean | text
deriving DecidableEq, Repr

inductive Error where
  | unreadableFile (file : Path)
  | wrongKind (found : Text) (wanted : Wanted) (key : Key) (origin : Option Text)
  | unsupportedFormat (name : Text)
deriving DecidableEq, Repr

namespace Error

def wantedText : Wanted → Text
  | .boolean => "a boolean".toList
  | .text => "a string".toList

def message : Error → Text
  | unreadableFile file => "cannot parse ".toList ++ file
  | wrongKind found wanted key origin =>
      "invalid type: ".toList ++ found ++ ", expected ".toList ++ wantedText wanted ++
        " for key `".toList ++ key.name ++ ['\x60'] ++
        (match origin with
          | some place => " in ".toList ++ place
          | none => [])
  | unsupportedFormat name =>
      "invalid format '".toList ++ name ++ "', expected one of [markdown|html|json]".toList

end Error

/-!
# Fitting values
-/

/-- The words for a truth value, in lower case. -/
def truthOfWord? (word : Text) : Option Bool :=
  if ["1".toList, "true".toList, "on".toList, "yes".toList].contains word then some true
  else if ["0".toList, "false".toList, "off".toList, "no".toList].contains word then some false
  else none

/-- A value as a truth value, or what it is instead. -/
def toBool : Value → Except Text Bool
  | .bool b => .ok b
  | .integer n => .ok (n != 0)
  | .float x => .ok x.isNonzero
  | .text t =>
      match truthOfWord? (Text.lowercase t) with
      | some b => .ok b
      | none => .error ("string ".toList ++ Text.quoted (Text.lowercase t))
  | .null => .error "unit value".toList
  | .list _ => .error "sequence".toList
  | .table _ => .error "map".toList

/-- A value as a text, or what it is instead. -/
def toText : Value → Except Text Text
  | .text t => .ok t
  | .bool b => .ok (if b then "true".toList else "false".toList)
  | .integer n => .ok (Numeral.signedDecimal n)
  | .float x => .ok x.text
  | .null => .error "unit value".toList
  | .list _ => .error "sequence".toList
  | .table _ => .error "map".toList

def Given.convert {α : Type} (g : Given) (k : Key) (wanted : Wanted) (as : Value → Except Text α) :
    Except Error α :=
  match as g.value with
  | .ok a => .ok a
  | .error found => .error (.wrongKind found wanted k g.origin)

def strictOf (g : Given) : Except Error Bool :=
  g.convert .strict .boolean toBool

def formatNameOf (g : Given) : Except Error Text :=
  g.convert .format .text toText

/-- The output path of a given value; null is none. -/
def outOf (g : Given) : Except Error (Option Path) :=
  match g.value with
  | .null => .ok none
  | _ => (g.convert .out .text toText).map some

def formatOf (name : Text) : Except Error Format :=
  match Format.ofName? name with
  | some f => .ok f
  | none => .error (.unsupportedFormat name)

end Settings
end EndpointDocs
