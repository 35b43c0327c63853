import EndpointDocs.Path.Basic

/-!
# Arguments of the command line

The arguments are inputs and options, in any order.  `--out` and `--format`, or `-o` and `-f` for
short, take a value: behind an equals sign, behind the short option itself, or in the next argument.
`--strict` takes a truth value, but only behind an equals sign; without one it is true.  What
follows `--` is an input, whatever it begins with.

## Delayed errors

A value is looked at only when the next option begins, when the first input behind an option comes,
or at the end.  Until then an unknown option is reported before a value that is missing or wrong.
-/

namespace EndpointDocs

/-- What the command line asks for. -/
structure Arguments where
  out : Option Path := none
  strict : Option Bool := none
  format : Option Text := none
  inputs : List Path := []
deriving DecidableEq, Repr

/-- Why a command line is not accepted, or help that is asked for. -/
inductive ArgumentError where
  | missingInput
  | invalidValue
  | repeatedOption
  | unknownOption
  | unneededValue
  | helpRequested
deriving DecidableEq, Repr

namespace Arguments

inductive Valued where
  | out | format
deriving DecidableEq, Repr

inductive Item where
  | terminator
  | help
  | valued (option : Valued) (value : Option Text)
  | strict (value : Option Text)
  | plain (t : Text)
  | refused (error : ArgumentError)
deriving DecidableEq, Repr

namespace Item

/-- A long option by its name, with the value behind the equals sign if there is one. -/
def ofLong (name : Text) (value : Option Text) : Item :=
  if name = "help".toList then
    match value with
    | none => .help
    | some _ => .refused .unneededValue
  else if name = "out".toList then .valued .out value
  else if name = "format".toList then .valued .format value
  else if name = "strict".toList then .strict value
  else .refused .unknownOption

/-- The value that is written directly behind a short option. -/
def shortValue : Text → Option Text
  | [] => none
  | '=' :: value => some value
  | value => some value

/-- A short option and what is written behind it. -/
def ofShort (c : Char) (rest : Text) : Item :=
  if c = 'h' then .help
  else if c = 'o' then .valued .out (shortValue rest)
  else if c = 'f' then .valued .format (shortValue rest)
  else .refused .unknownOption

/-- What a long option's text says: its name, and the value behind the first equals sign. -/
def splitLong (t : Text) : Text × Option Text :=
  match t.dropWhile (· != '=') with
  | [] => (t, none)
  | _ :: value => (t.takeWhile (· != '='), some value)

/-- What an argument is, unless it comes behind the terminator. -/
def ofText : Text → Item
  | ['-', '-'] => .terminator
  | '-' :: '-' :: long => ofLong (splitLong long).1 (splitLong long).2
  | '-' :: c :: rest => ofShort c rest
  | t => .plain t

end Item

/-- A value that has not been looked at yet. -/
inductive Pending where
  | nothing
  | awaited (option : Valued)
  | given (option : Valued) (value : Text)
  | inputs (values : List Path)
deriving DecidableEq, Repr

/-- A command line that has been read in part. -/
structure Progress where
  accepted : Arguments := {}
  pending : Pending := .nothing
deriving DecidableEq, Repr

/-- Sets an option to its value, once. -/
def set (a : Arguments) (option : Valued) (value : Text) : Except ArgumentError Arguments :=
  match option with
  | .out =>
      if a.out.isSome then .error .repeatedOption
      else if value.isEmpty then .error .invalidValue
      else .ok { a with out := some value }
  | .format =>
      if a.format.isSome then .error .repeatedOption
      else .ok { a with format := some value }

def truth? : Option Text → Option Bool
  | none => some true
  | some value =>
      if value = "true".toList then some true
      else if value = "false".toList then some false
      else none

def setStrict (a : Arguments) (value : Option Text) : Except ArgumentError Arguments :=
  if a.strict.isSome then .error .repeatedOption
  else
    match truth? value with
    | some b => .ok { a with strict := some b }
    | none => .error .invalidValue

/-- Adds inputs, none of which may be empty. -/
def addInputs (a : Arguments) (values : List Path) : Except ArgumentError Arguments :=
  if values.any List.isEmpty then .error .invalidValue
  else .ok { a with inputs := a.inputs ++ values }

namespace Progress

def settle (p : Progress) : Except ArgumentError Arguments :=
  match p.pending with
  | .nothing => .ok p.accepted
  | .awaited _ => .error .invalidValue
  | .given option value => p.accepted.set option value
  | .inputs values => p.accepted.addInputs values

def takeInput (p : Progress) (t : Path) : Except ArgumentError Progress :=
  match p.pending with
  | .inputs values => .ok { p with pending := .inputs (values ++ [t]) }
  | _ => p.settle.map fun a => ⟨a, .inputs [t]⟩

def step (p : Progress) : Item → Except ArgumentError Progress
  | .terminator => .ok p
  | .refused error => .error error
  | .help =>
      match p.settle with
      | .ok _ => .error .helpRequested
      | .error error => .error error
  | .valued option none => p.settle.map fun a => ⟨a, .awaited option⟩
  | .valued option (some value) =>
      (p.settle.bind fun a => a.set option value).map fun a => ⟨a, .nothing⟩
  | .strict value => (p.settle.bind fun a => a.setStrict value).map fun a => ⟨a, .nothing⟩
  | .plain t =>
      match p.pending with
      | .awaited option => .ok { p with pending := .given option t }
      | _ => p.takeInput t

def takeInputs (p : Progress) : List Path → Except ArgumentError Progress
  | [] => .ok p
  | t :: rest => (p.takeInput t).bind fun p' => takeInputs p' rest

def run (p : Progress) : List Text → Except ArgumentError Progress
  | [] => .ok p
  | t :: rest =>
      match Item.ofText t with
      | .terminator => p.takeInputs rest
      | item => (p.step item).bind fun p' => run p' rest

end Progress

def read (args : List Text) : Except ArgumentError Arguments :=
  match (Progress.run {} args).bind Progress.settle with
  | .error error => .error error
  | .ok a => if a.inputs.isEmpty then .error .missingInput else .ok a

end Arguments
end EndpointDocs
