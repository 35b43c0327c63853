import EndpointDocs.Value.Toml.Moment
import EndpointDocs.Value.Toml.Number
import EndpointDocs.Value.Toml.Quoted
import EndpointDocs.Value.Toml.Tree

/-!
# Reading TOML

A TOML document is read line by line: a key and its value, the header of a table, or nothing.
Comments run from a number sign to the end of the line.

Readers give what they have read and the rest of the text.  Lists and tables inside values may be
nested, so the readers of values count down from the length of the document.
-/

namespace EndpointDocs
namespace Toml

/-- Whether a character separates words on a line. -/
def isSpace (c : Char) : Bool :=
  c == ' ' || c == '\t'

def skipSpace (t : Text) : Text :=
  t.dropWhile isSpace

/-- The rest of a text behind a comment, if there is one; none if it has a control in it. -/
def skipComment? : Text → Option Text
  | '#' :: rest =>
      let comment := rest.takeWhile (· != '\n')
      let comment :=
        if (rest.dropWhile (· != '\n')).isEmpty then comment
        else if comment.getLast? = some '\r' then comment.dropLast else comment
      if comment.any isControl then none else some (rest.drop comment.length)
  | t => some t

/-- The rest of a text behind the end of the line, if nothing but blanks and a comment is left. -/
def endLine? (t : Text) : Option Text :=
  match skipComment? (skipSpace t) with
  | some [] => some []
  | some ('\n' :: rest) => some rest
  | some ('\r' :: '\n' :: rest) => some rest
  | _ => none

/-- The rest of a text behind blanks, ends of lines and comments. -/
def skipLines? : Nat → Text → Option Text
  | 0, t => some t
  | fuel + 1, t =>
      match skipSpace t with
      | '\n' :: rest => skipLines? fuel rest
      | '\r' :: '\n' :: rest => skipLines? fuel rest
      | '#' :: rest => (skipComment? ('#' :: rest)).bind (skipLines? fuel)
      | t => some t

/-- Whether a character may stand in a key without quotes. -/
def isKeyChar (c : Char) : Bool :=
  c.isAlphanum || c == '_' || c == '-'

/-- One part of a key. -/
def simpleKey? (t : Text) : Option (Text × Text) :=
  match quotedKey? t with
  | some r => some r
  | none =>
      let key := t.takeWhile isKeyChar
      if key.isEmpty then none else some (key, t.dropWhile isKeyChar)

/-- The parts of a key with dots between them. -/
def key? : Nat → Text → Option (List Text × Text)
  | 0, _ => none
  | fuel + 1, t =>
      match simpleKey? (skipSpace t) with
      | none => none
      | some (part, rest) =>
          match skipSpace rest with
          | '.' :: rest => (key? fuel rest).map fun (parts, rest) => (part :: parts, rest)
          | rest => some ([part], rest)

/-- Splits the last part off a key. -/
def splitKey (parts : List Text) : List Text × Text :=
  (parts.dropLast, parts.getLast?.getD [])

/-- Whether a character may stand in a number, a truth value or a moment. -/
def isWordChar (c : Char) : Bool :=
  c.isAlphanum || c == '_' || c == '-' || c == '+' || c == '.' || c == ':'

/-- The word that begins a text; a date and a time with a space between them are one word. -/
def word (t : Text) : Text × Text :=
  let first := t.takeWhile isWordChar
  match t.dropWhile isWordChar with
  | ' ' :: c :: rest =>
      if c.isDigit && (date? first).any fun r => r.2.isEmpty then
        (first ++ ' ' :: (c :: rest).takeWhile isWordChar, (c :: rest).dropWhile isWordChar)
      else (first, ' ' :: c :: rest)
  | rest => (first, rest)

def wordValue? (t : Text) : Option Value :=
  if t = "true".toList then some (.bool true)
  else if t = "false".toList then some (.bool false)
  else (((moment? t).map Value.text).or (float? t)).or (integer? t)

mutual

def value? : Nat → Text → Option (Value × Text)
  | 0, _ => none
  | fuel + 1, t =>
      match t with
      | '"' :: _ => (quoted? t).map fun (s, rest) => (.text s, rest)
      | '\'' :: _ => (quoted? t).map fun (s, rest) => (.text s, rest)
      | '[' :: rest => (items? fuel rest).map fun (vs, rest) => (.list vs, rest)
      | '\x7b' :: rest =>
          match skipSpace rest with
          | '\x7d' :: rest => some (.table [], rest)
          | rest => (inlineEntries? fuel [] rest).map fun (es, rest) => (.table (valuesOf es), rest)
      | _ => (wordValue? (word t).1).map fun v => (v, (word t).2)

/-- The items of a list, behind its bracket or a comma. -/
def items? : Nat → Text → Option (List Value × Text)
  | 0, _ => none
  | fuel + 1, t =>
      match skipLines? fuel t with
      | none => none
      | some (']' :: rest) => some ([], rest)
      | some t =>
          match value? fuel t with
          | none => none
          | some (v, rest) =>
              match skipLines? fuel rest with
              | some (',' :: rest) => (items? fuel rest).map fun (vs, rest) => (v :: vs, rest)
              | some (']' :: rest) => some ([v], rest)
              | _ => none

/-- The entries of a table on one line, behind its brace or a comma. -/
def inlineEntries? : Nat → Entries → Text → Option (Entries × Text)
  | 0, _, _ => none
  | fuel + 1, entries, t =>
      match key? fuel t with
      | some (parts, '=' :: rest) =>
          match value? fuel (skipSpace rest) with
          | none => none
          | some (v, rest) =>
              match insert (splitKey parts).1 (splitKey parts).2 v .header entries with
              | none => none
              | some entries =>
                  match skipSpace rest with
                  | ',' :: rest => inlineEntries? fuel entries rest
                  | '\x7d' :: rest => some (entries, rest)
                  | _ => none
      | _ => none

end

/-- The entries of a document, behind those that have been read; `header` is the path of the table
that keys are added to. -/
def lines? : Nat → List Text → Entries → Text → Option Entries
  | 0, _, _, _ => none
  | fuel + 1, header, entries, t =>
      match skipLines? fuel t with
      | none => none
      | some [] => some entries
      | some ('[' :: '[' :: rest) =>
          match key? fuel rest with
          | some (parts, ']' :: ']' :: rest) =>
              match openElement (splitKey parts).1 (splitKey parts).2 entries, endLine? rest with
              | some entries, some rest => lines? fuel parts entries rest
              | _, _ => none
          | _ => none
      | some ('[' :: rest) =>
          match key? fuel rest with
          | some (parts, ']' :: rest) =>
              match openTable (splitKey parts).1 (splitKey parts).2 entries, endLine? rest with
              | some entries, some rest => lines? fuel parts entries rest
              | _, _ => none
          | _ => none
      | some t =>
          match key? fuel t with
          | some (parts, '=' :: rest) =>
              match value? fuel (skipSpace rest) with
              | none => none
              | some (v, rest) =>
                  let inserted :=
                    change false (insert (splitKey parts).1 (splitKey parts).2 v) header .header
                      entries
                  match inserted, endLine? rest with
                  | some entries, some rest => lines? fuel header entries rest
                  | _, _ => none
          | _ => none

/-- The table that a TOML document gives. -/
def read? (t : Text) : Option Value :=
  (lines? (t.length + 2) [] [] t).map fun entries => .table (valuesOf entries)

end Toml
end EndpointDocs
