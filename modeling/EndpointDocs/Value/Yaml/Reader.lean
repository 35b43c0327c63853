import EndpointDocs.Value.Yaml.Block
import EndpointDocs.Value.Yaml.Scalar

/-!
# Reading YAML

A value is a list with a hyphen before each entry, a table with a key and a colon before each value,
a list or table in brackets or braces, or a text.  Lists and tables without brackets hold the lines
that begin at one column; the values inside begin further to the right, but a list in a table may
begin at the column of the key.

Readers of values give the value, and the column and text of what comes next.  Values may be nested,
so they count down from the length of the document.

## What is left out

This is the part of the format that settings are written in.  Anchors, aliases, tags, keys behind a
question mark and keys that are no texts are refused, so a file with any of them counts as one that
cannot be read.
-/

namespace EndpointDocs
namespace Yaml

/-- What comes next after the end of a value on its line. -/
def afterLine (v : Value) (rest : Text) : Option (Value × Nat × Text) :=
  (lineEnd? rest).map fun later => (v, nextContent false 0 later)

/-- Skips blanks, line breaks and comments inside brackets and braces. -/
def skipFlow (comment afterBlank : Bool) : Text → Text
  | [] => []
  | c :: rest =>
      if c = '\n' then skipFlow false true rest
      else if comment then skipFlow true true rest
      else if isSpace c then skipFlow false true rest
      else if c = '#' ∧ afterBlank then skipFlow true true rest
      else c :: rest

/-- A text without quotes inside brackets or braces, over several lines. -/
def flowPlain : Nat → Text → Text × Text
  | 0, t => ([], t)
  | fuel + 1, t =>
      let (span, rest) := plainSpan true false t
      let next := skipFlow false true rest
      if next.length < rest.length && !(next.head?.all fun c => isFlowMark c || c == ':' || c == '#')
      then
        let (later, rest) := flowPlain fuel next
        (withoutBlanks span ++ ' ' :: later, rest)
      else (withoutBlanks span, rest)

mutual

/-- A value inside brackets or braces. -/
def flowValue? : Nat → Text → Option (Value × Text)
  | 0, _ => none
  | fuel + 1, t =>
      match t with
      | '[' :: rest => (flowItems? fuel rest).map fun (vs, rest) => (.list vs, rest)
      | '\x7b' :: rest => (flowEntries? fuel rest).map fun (es, rest) => (.table es, rest)
      | _ =>
          match quoted? t with
          | some (s, rest) => some (.text s, rest)
          | none =>
              if beginsPlain true t then
                let (s, rest) := flowPlain fuel t
                (plainValue? s).map fun v => (v, rest)
              else none

/-- A value behind a colon inside brackets or braces, which may be missing. -/
def flowAfterColon? : Nat → Text → Option (Value × Text)
  | 0, _ => none
  | fuel + 1, t =>
      match skipFlow false true t with
      | [] => none
      | c :: rest =>
          if c = ',' ∨ c = ']' ∨ c = '\x7d' then some (.null, c :: rest)
          else flowValue? fuel (c :: rest)

/-- The items of a list, behind its bracket or a comma. -/
def flowItems? : Nat → Text → Option (List Value × Text)
  | 0, _ => none
  | fuel + 1, t =>
      match skipFlow false true t with
      | ']' :: rest => some ([], rest)
      | t =>
          match flowValue? fuel t with
          | none => none
          | some (v, rest) =>
              let item :=
                match skipFlow false false rest with
                | ':' :: later =>
                    (keyOf? v).bind fun k =>
                      (flowAfterColon? fuel later).map fun (w, rest) =>
                        (Value.table [(k, w)], skipFlow false false rest)
                | rest => some (v, rest)
              match item with
              | some (v, ',' :: rest) => (flowItems? fuel rest).map fun (vs, rest) => (v :: vs, rest)
              | some (v, ']' :: rest) => some ([v], rest)
              | _ => none

/-- The entries of a table, behind its brace or a comma. -/
def flowEntries? : Nat → Text → Option (List (Text × Value) × Text)
  | 0, _ => none
  | fuel + 1, t =>
      match skipFlow false true t with
      | '\x7d' :: rest => some ([], rest)
      | t =>
          match flowValue? fuel t with
          | none => none
          | some (key, rest) =>
              let value :=
                match skipFlow false false rest with
                | ':' :: later =>
                    (flowAfterColon? fuel later).map fun (w, rest) => (w, skipFlow false false rest)
                | rest => some (Value.null, rest)
              match keyOf? key, value with
              | some k, some (v, ',' :: rest) =>
                  (flowEntries? fuel rest).map fun (es, rest) => ((k, v) :: es, rest)
              | some k, some (v, '\x7d' :: rest) => some ([(k, v)], rest)
              | _, _ => none

end

/-- A text without quotes, over the lines that begin at some column or behind it. -/
def plain : Nat → Nat → Text → List Mark × Text
  | 0, _, t => ([], t)
  | fuel + 1, least, t =>
      let (span, rest) := plainSpan false false t
      let line := withoutBlanks span
      let marks := line.map Mark.raw
      let breaks := rest.takeWhile fun c => c == '\n' || c == ' '
      let next := rest.dropWhile fun c => c == '\n' || c == ' '
      let column := (breaks.reverse.takeWhile (· == ' ')).length
      if rest.head? = some '\n' ∧ least ≤ column ∧ next ≠ [] ∧ next.head? ≠ some '#' then
        let (later, rest) := plain fuel least next
        (marks ++ List.replicate (breaks.count '\n') .lineBreak ++ later, rest)
      else (marks, t.drop line.length)

/-- The key that begins a line, and what follows its colon. -/
def key? (t : Text) : Option (Text × Text) :=
  match quoted? t with
  | some (s, rest) =>
      match rest.dropWhile isSpace with
      | ':' :: later =>
          if separates false later && !(t.take (t.length - rest.length)).contains '\n' then
            some (s, later)
          else none
      | _ => none
  | none =>
      if !beginsPlain false t then none
      else
        match plainSpan false false t with
        | (span, ':' :: later) =>
            ((plainValue? (withoutBlanks span)).bind keyOf?).map fun k => (k, later)
        | _ => none

/-- A value that does not begin with a hyphen or a key. -/
def inline? (fuel least : Nat) (t : Text) : Option (Value × Nat × Text) :=
  match t with
  | [] => none
  | c :: _ =>
      if c = '|' ∨ c = '>' then
        (block? least t).map fun (s, rest) => (.text s, nextContent false 0 rest)
      else if c = '[' ∨ c = '\x7b' then
        (flowValue? fuel t).bind fun (v, rest) => afterLine v rest
      else
        match quoted? t with
        | some (s, rest) => afterLine (.text s) rest
        | none =>
            if beginsPlain false t then
              let (marks, rest) := plain fuel least t
              (plainValue? (fold marks)).bind fun v => afterLine v rest
            else none

mutual

/-- A value that begins at a column, inside a block that begins left of `least`. -/
def value? : Nat → Nat → Nat → Text → Option (Value × Nat × Text)
  | 0, _, _, _ => none
  | fuel + 1, least, column, t =>
      if (afterHyphen? t).isSome then
        (items? fuel column (column, t)).map fun (vs, next) => (.list vs, next)
      else if (key? t).isSome then
        (entries? fuel column (column, t)).map fun (es, next) => (.table es, next)
      else inline? fuel least t

/-- The value behind a hyphen or a colon: on the same line, or on the next one if that begins at
`least` or behind it. -/
def nested? : Nat → Nat → Nat → Text → Option (Value × Nat × Text)
  | 0, _, _, _ => none
  | fuel + 1, least, column, t =>
      match lineEnd? t with
      | some later =>
          let (column, next) := nextContent false 0 later
          if next ≠ [] ∧ least ≤ column then value? fuel least column next
          else some (.null, column, next)
      | none => value? fuel least (column + (t.takeWhile isSpace).length) (t.dropWhile isSpace)

/-- The items of a list whose hyphens stand at a column. -/
def items? : Nat → Nat → Nat × Text → Option (List Value × Nat × Text)
  | 0, _, _ => none
  | fuel + 1, column, (c, t) =>
      if t.isEmpty || decide (c < column) then some ([], c, t)
      else
        match afterHyphen? t with
        | none => if c = column then some ([], c, t) else none
        | some rest =>
            if c ≠ column then none
            else
              match nested? fuel (column + 1) (column + 1) rest with
              | none => none
              | some (v, next) => (items? fuel column next).map fun (vs, next) => (v :: vs, next)

/-- The entries of a table whose keys stand at a column. -/
def entries? : Nat → Nat → Nat × Text → Option (List (Text × Value) × Nat × Text)
  | 0, _, _ => none
  | fuel + 1, column, (c, t) =>
      if t.isEmpty || decide (c < column) then some ([], c, t)
      else if c ≠ column then none
      else
        match key? t with
        | none => none
        | some (k, rest) =>
            let value :=
              match lineEnd? rest with
              | some later =>
                  let (c', next) := nextContent false 0 later
                  if c' = column ∧ (afterHyphen? next).isSome then
                    (items? fuel column (c', next)).map fun (vs, next) => (Value.list vs, next)
                  else nested? fuel (column + 1) 0 rest
              | none => inline? fuel (column + 1) (rest.dropWhile isSpace)
            match value with
            | none => none
            | some (v, next) =>
                (entries? fuel column next).map fun (es, next) => ((k, v) :: es, next)

end

/-- The value of a document. -/
def documentValue? (d : Document) : Option Value :=
  let t := Text.unlines d.lines
  let (column, next) := nextContent false 0 t
  if next.isEmpty then some .null
  else
    match value? (4 * t.length + 4) 0 column next with
    | some (v, _, []) => some v
    | _ => none

/-- The value of a file, which may hold one document; without any it is an empty table. -/
def read? (t : Text) : Option Value :=
  match Document.ofText t with
  | [] => some (.table [])
  | [d] => documentValue? d
  | _ => none

end Yaml
end EndpointDocs
