import EndpointDocs.Text.Basic

/-!
# Paths

A path is a text in which slashes separate the pieces.  Empty pieces and pieces that are one dot do
not count, except that the first piece tells an absolute path from a relative one and an explicit
`./` from a bare name.

## Names of files

The last piece that counts is the name of the file, unless it leads to a directory: two dots, or a
first piece that is empty or one dot.  A name has a stem, and an extension behind its last dot,
unless that dot begins the name.
-/

namespace EndpointDocs

abbrev Path := Text

namespace Path

/-- Whether a piece behind the first does not count. -/
def isTrivial (piece : Text) : Bool :=
  piece == [] || piece == ['.']

/-- Whether a piece, if it is the last that counts, is no name of a file. -/
def isDirectory (piece : Text) : Bool :=
  isTrivial piece || piece == ['.', '.']

def first (path : Path) : Text :=
  (List.splitOn '/' path).headD []

/-- The pieces behind the first, without those at the end that do not count. -/
def later (path : Path) : List Text :=
  Text.dropEndWhile isTrivial (List.splitOn '/' path).tail

def isAbsolute (path : Path) : Bool :=
  path.head? == some '/'

/-- What a path says: whether it begins at the root, and the pieces that count. -/
def components (path : Path) : Bool × List Text :=
  (isAbsolute path,
    (if (first path).isEmpty then [] else [first path]) ++
      (later path).filter fun piece => !isTrivial piece)

def fileName? (path : Path) : Option Text :=
  let last := (later path).getLast?.getD (first path)
  if isDirectory last then none else some last

/-- Splits a name before its last dot, unless the dot begins the name. -/
def splitName (name : Text) : Text × Option Text :=
  let extension := (name.reverse.takeWhile (· != '.')).reverse
  match (name.reverse.dropWhile (· != '.')).reverse.dropLast with
  | [] => (name, none)
  | c :: stem => (c :: stem, some extension)

def fileStem? (path : Path) : Option Text :=
  (fileName? path).map fun name => (splitName name).1

def extension? (path : Path) : Option Text :=
  (fileName? path).bind fun name => (splitName name).2

def ofPieces (start : Text) (pieces : List Text) : Path :=
  if start.isEmpty && pieces.isEmpty then ['/'] else List.intercalate ['/'] (start :: pieces)

/-- The directory of the file; a path without a file name is a directory itself. -/
def directory (path : Path) : Path :=
  if (fileName? path).isNone then path
  else if (later path).isEmpty then []
  else ofPieces (first path) (Text.dropEndWhile isTrivial (later path).dropLast)

/-- The path of `name` in a directory.  An absolute name is a path by itself. -/
def join (directory : Path) (name : Text) : Path :=
  if isAbsolute name then name
  else if directory.isEmpty || directory.getLast? == some '/' then directory ++ name
  else directory ++ '/' :: name

def withFileName (path : Path) (name : Text) : Path :=
  join (directory path) name

end Path
end EndpointDocs
