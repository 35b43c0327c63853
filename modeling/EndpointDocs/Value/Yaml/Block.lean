import EndpointDocs.Text.Blank
import EndpointDocs.Value.Yaml.Layout

/-!
# Texts in blocks of lines

Behind a vertical bar the lines of a block are a text as they stand; behind a greater-than sign
neighbouring lines are put side by side.  A sign tells what becomes of the line breaks at the end:
one is kept, or none with a minus, or all with a plus.  A digit gives the depth of the block;
otherwise the first line that is not blank does.
-/

namespace EndpointDocs
namespace Yaml

/-- The first line of a block text: whether lines are put side by side, what becomes of the line
breaks at the end, and the depth. -/
structure BlockHeader where
  folds : Bool
  keep : Bool := false
  strip : Bool := false
  depth : Option Nat := none
deriving DecidableEq, Repr

/-- Reads the signs and digits behind the first character of a block text. -/
def BlockHeader.read (h : BlockHeader) : Text → BlockHeader × Text
  | [] => (h, [])
  | c :: rest =>
      if c = '+' then BlockHeader.read { h with keep := true } rest
      else if c = '-' then BlockHeader.read { h with strip := true } rest
      else if c.isDigit then BlockHeader.read { h with depth := Numeral.digitValue? c } rest
      else (h, c :: rest)

/-- The number of spaces that begin a line. -/
def indentation (line : Text) : Nat :=
  (line.takeWhile (· == ' ')).length

def isSpaces (line : Text) : Bool :=
  line.all (· == ' ')

/-- The text of lines put side by side.  Lines that begin with a blank keep their line breaks. -/
def foldLines : List Text → Text
  | [] => []
  | [line] => line
  | line :: next :: rest =>
      if line.isEmpty then '\n' :: foldLines (next :: rest)
      else if beginsBlank line || (beginsBlank next && !next.isEmpty) then
        line ++ '\n' :: foldLines (next :: rest)
      else if next.isEmpty then line ++ foldLines (next :: rest)
      else line ++ ' ' :: foldLines (next :: rest)

/-- The text of a block whose lines begin at some column or behind it, and the lines after it. -/
def blockText (h : BlockHeader) (least : Nat) (ls : List Text) : Text × List Text :=
  let depth :=
    match h.depth with
    | some d => least - 1 + d
    | none => max least (indentation ((ls.find? fun l => !isSpaces l).getD []))
  let inBlock := fun line => isSpaces line || decide (depth ≤ indentation line)
  let block := (ls.takeWhile inBlock).map (List.drop depth)
  let kept := Text.dropEndWhile List.isEmpty block
  let text := if h.folds then foldLines kept else Text.unlines kept
  let ending :=
    if h.strip then []
    else if h.keep then List.replicate (block.length - kept.length + (if kept.isEmpty then 0 else 1)) '\n'
    else if kept.isEmpty then []
    else ['\n']
  (text ++ ending, ls.dropWhile inBlock)

/-- The lines of a text; what follows the last line feed is a line only if there is anything. -/
def endedLines (t : Text) : List Text :=
  match (Text.lines t).getLast? with
  | some [] => (Text.lines t).dropLast
  | _ => Text.lines t

/-- A block text from its first character on: the text, and what follows. -/
def block? (least : Nat) : Text → Option (Text × Text)
  | [] => none
  | c :: rest =>
      let (header, rest) := BlockHeader.read { folds := c == '>' } rest
      match lineEnd? rest with
      | none => none
      | some later =>
          let (t, ls) := blockText header least (endedLines (later.drop 1))
          some (t, Text.unlines ls)

end Yaml
end EndpointDocs
