/-!
# Text as a list of characters

Comments, section bodies, documents, settings and paths are all read character by character, so a
text is a list of characters.  Strings appear only at the edges of the library: as literals and
where a program reads and prints.

## Lines

The lines of a text are its pieces between line feeds.  A text without a line feed is one line, and
a text that ends in one has an empty last line, so `unlines (lines t)` is `t` again.
-/

namespace EndpointDocs

/-- A text is the list of its characters. -/
abbrev Text := List Char

namespace Text

/-- The pieces of a text between its line feeds. -/
def lines (t : Text) : List Text :=
  List.splitOn '\n' t

/-- Puts texts one under the other, with a line feed between neighbours. -/
def unlines (ls : List Text) : Text :=
  List.intercalate ['\n'] ls

/-- Puts texts side by side, with one space between neighbours. -/
def unwords (ls : List Text) : Text :=
  List.intercalate [' '] ls

/-- What follows `start` in a text that begins with it. -/
def after? (start t : Text) : Option Text :=
  List.isPrefixOf? start t

def startsWith (start t : Text) : Bool :=
  (after? start t).isSome

/-!
# Ends of lists

The longest end whose members all satisfy a test is dropped from a text, where the members are blank
characters, and from a list of lines, where they are blank lines.
-/

/-- Drops the longest end of a list whose members all satisfy `p`. -/
def dropEndWhile {α : Type} (p : α → Bool) : List α → List α
  | [] => []
  | a :: rest =>
      match dropEndWhile p rest with
      | [] => if p a then [] else [a]
      | b :: kept => a :: b :: kept

@[simp] theorem dropEndWhile_nil {α : Type} (p : α → Bool) : dropEndWhile p [] = [] := rfl

theorem dropEndWhile_cons {α : Type} (p : α → Bool) (a : α) (rest : List α) :
    dropEndWhile p (a :: rest) =
      if dropEndWhile p rest = [] then (if p a then [] else [a])
      else a :: dropEndWhile p rest := by
  rw [dropEndWhile]
  cases dropEndWhile p rest <;> simp

end Text
end EndpointDocs
