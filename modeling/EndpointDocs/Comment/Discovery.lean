import EndpointDocs.Text.Utf8

/-!
# Comments of a Go source

A comment runs from `//` to the end of its line, or from `/*` to the first `*/` behind it.  Neither
counts inside a literal: a string or a rune between double or single quotes, in which a backslash
takes the next character with it, or a raw string between backquotes.

## Places

Each comment is found with its place in the source, counted in bytes.  The line feed that ends a
line comment is not part of it, while a carriage return before the line feed is.
-/

namespace EndpointDocs

/-- A comment with its delimiters, and the bytes of the source at which it starts and stops. -/
structure Comment where
  start : Nat
  stop : Nat
  text : Text
deriving DecidableEq, Repr

namespace Comment

/-- What a character of a source belongs to.  A comment that has been entered comes with its start
and its characters so far, last one first. -/
inductive Place where
  | code
  | literal (quote : Char)
  | escaped (quote : Char)
  | rawString
  | lineComment (start : Nat) (read : Text)
  | blockComment (start : Nat) (read : Text)
deriving DecidableEq, Repr

def backquote : Char :=
  Char.ofNat 0x60

/-- The place behind a character of code that opens no comment. -/
def Place.afterCode (c : Char) : Place :=
  if c = '"' ∨ c = '\'' then .literal c
  else if c = backquote then .rawString
  else .code

def Place.afterLiteral (quote c : Char) : Place :=
  if c = '\\' then .escaped quote
  else if c = quote then .code
  else .literal quote

/-- The comments of the rest of a source, which begins at the byte `pos` and in this place. -/
def scan : Place → Nat → Text → List Comment
  | .code, pos, '/' :: '/' :: rest => scan (.lineComment pos ['/', '/']) (pos + 2) rest
  | .code, pos, '/' :: '*' :: rest => scan (.blockComment pos ['*', '/']) (pos + 2) rest
  | .code, pos, c :: rest => scan (.afterCode c) (pos + c.utf8Size) rest
  | .literal quote, pos, c :: rest => scan (.afterLiteral quote c) (pos + c.utf8Size) rest
  | .escaped quote, pos, c :: rest => scan (.literal quote) (pos + c.utf8Size) rest
  | .rawString, pos, c :: rest =>
      scan (if c = backquote then .code else .rawString) (pos + c.utf8Size) rest
  | .lineComment start read, pos, c :: rest =>
      if c = '\n' then ⟨start, pos, read.reverse⟩ :: scan .code (pos + 1) rest
      else scan (.lineComment start (c :: read)) (pos + c.utf8Size) rest
  | .lineComment start read, pos, [] => [⟨start, pos, read.reverse⟩]
  | .blockComment start read, pos, '*' :: '/' :: rest =>
      ⟨start, pos + 2, ('/' :: '*' :: read).reverse⟩ :: scan .code (pos + 2) rest
  | .blockComment start read, pos, c :: rest =>
      scan (.blockComment start (c :: read)) (pos + c.utf8Size) rest
  | _, _, [] => []

def ofSource (source : Text) : List Comment :=
  scan .code 0 source

end Comment
end EndpointDocs
