import EndpointDocs.Block.Reading
import EndpointDocs.Numeral.Decimal
import EndpointDocs.Path.Basic

/-!
# The log

A run notes what it does in records.  A record has a level, says which part of the program it comes
from, and gives details as named values behind its message.

## Filters

Which records are shown is set by a list of directives.  A directive gives a level to the parts
whose names begin with its target; of several the one with the longest target counts, and of those
with the same target the last.  A record is shown if its level is at least as important as the one
its part is given.
-/

namespace EndpointDocs
namespace Log

inductive Level where
  | error | warn | info | debug | trace
deriving DecidableEq, Repr

namespace Level

def all : List Level :=
  [error, warn, info, debug, trace]

def name : Level → Text
  | error => "ERROR".toList
  | warn => "WARN".toList
  | info => "INFO".toList
  | debug => "DEBUG".toList
  | trace => "TRACE".toList

/-- The number of a level: the most important has the number one. -/
def rank : Level → Nat
  | error => 1
  | warn => 2
  | info => 3
  | debug => 4
  | trace => 5

end Level

structure Record where
  level : Level
  target : Text
  message : Text
  details : List (Text × Text) := []
deriving DecidableEq, Repr

namespace Record

def line (r : Record) : Text :=
  r.level.name ++ ' ' :: r.target ++ ": ".toList ++ r.message ++
    r.details.flatMap fun (name, value) => ' ' :: name ++ '=' :: value

def levelOf : Remark → Level
  | .emptyBlock => .debug
  | .skippedBlock _ => .warn
  | .incomplete _ => .warn

def ofNote (note : Note) : Record :=
  ⟨levelOf note.remark, "apidoc::reader".toList, note.remark.message,
    [("apidoc".toList, Text.quoted note.name)]⟩

def progress (message : Text) (details : List (Text × Text)) : Record :=
  ⟨.info, "apidoc".toList, message, details⟩

def strictMode : Record :=
  progress "strict mode: validation errors are fatal".toList []

def commentsFound (n : Nat) (path : Path) : Record :=
  ⟨.debug, "apidoc::source".toList, Numeral.decimal n ++ " comments in ".toList ++ path, []⟩

def inputRead (path : Path) (endpoints : Nat) : Record :=
  progress "read apidoc blocks".toList
    [("file".toList, path), ("endpoints".toList, Numeral.decimal endpoints)]

def documentWritten (path : Path) (endpoints : Nat) : Record :=
  progress "wrote docs".toList
    [("path".toList, path), ("endpoints".toList, Numeral.decimal endpoints)]

def finished (time : Text) : Record :=
  progress ("done in ".toList ++ time) []

end Record

/-!
# Filters
-/

/-- A directive: the level for the parts whose names begin with the target, or none at all. -/
structure Directive where
  target : Text
  level : Option Level
deriving DecidableEq, Repr

/-- The small letter of a capital among the letters of English. -/
def asciiLower (t : Text) : Text :=
  t.map Char.toLower

/-- The level that a word gives, if it gives one: a name in letters of any case, or a number, where
zero and `off` stand for no level at all. -/
def levelOfWord? (word : Text) : Option (Option Level) :=
  if word.isEmpty then some (some .error)
  else if asciiLower word = "off".toList then some none
  else
    match Level.all.find? fun l => asciiLower l.name == asciiLower word with
    | some l => some (some l)
    | none =>
        match Numeral.upTo? 5 word with
        | none => none
        | some n => some (Level.all.find? fun l => l.rank == n)

/-- The directive that a text gives, if it gives one: a level, a target with a level, or a target
alone, which shows all of it. -/
def directive? (t : Text) : Option Directive :=
  match t.dropWhile (· != '=') with
  | [] =>
      match levelOfWord? t with
      | some level => some ⟨[], level⟩
      | none => some ⟨t, some .trace⟩
  | _ :: word => (levelOfWord? word).map fun level => ⟨t.takeWhile (· != '='), level⟩

abbrev Filter := List Directive

namespace Filter

/-- Everything from a level up. -/
def only (level : Level) : Filter :=
  [⟨[], some level⟩]

/-- The filter that a text gives, if all its directives can be read; an empty one shows errors. -/
def ofText? (t : Text) : Option Filter :=
  match (List.splitOn ',' t).filter (!·.isEmpty) with
  | [] => some (only .error)
  | words => words.mapM directive?

def variableName : Text :=
  "RUST_LOG".toList

/-- The filter of a run in an environment; without one that can be read, information is shown. -/
def ofEnvironment (env : List (Text × Text)) : Filter :=
  ((env.lookup variableName).bind ofText?).getD (only .info)

/-- Of two directives the one that counts, if the second comes later. -/
def stronger (first : Option Directive) (second : Directive) : Option Directive :=
  match first with
  | none => some second
  | some d => if d.target.length ≤ second.target.length then some second else some d

def shows (filter : Filter) (r : Record) : Bool :=
  match (filter.filter fun d => Text.startsWith d.target r.target).foldl stronger none with
  | none => false
  | some d =>
      match d.level with
      | none => false
      | some level => decide (r.level.rank ≤ level.rank)

end Filter
end Log
end EndpointDocs
