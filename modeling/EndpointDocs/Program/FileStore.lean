import EndpointDocs.Path.Basic
import EndpointDocs.Text.Utf8

/-!
# Files

Files and directories have places, told by the names on the way down from the root, and one of the
directories is the working directory.  A path is followed piece by piece, from the root if it begins
there and from the working directory if it does not.  Each piece but the last must lead to a
directory, two dots lead to the directory above, and a slash at the end asks for a directory.

## One place for each file

There are no links, so paths lead to one file exactly if they lead to one place, however they are
written: from the root, by the name of the working directory, or through other directories.

## Reading and writing

Reading gives the content of a file.  Writing gives a file a new content, or makes a new file in a
directory that is there.
-/

namespace EndpointDocs

open Text (Bytes)

inductive FileError where
  | notFound
  | notDirectory
  | isDirectory
  | other (message : Text)
deriving DecidableEq, Repr

namespace FileError

def message : FileError → Text
  | notFound => "No such file or directory (os error 2)".toList
  | notDirectory => "Not a directory (os error 20)".toList
  | isDirectory => "Is a directory (os error 21)".toList
  | other message => message

end FileError

/-- A place, told by the names on the way down from the root. -/
structure Location where
  names : List Text := []
deriving DecidableEq, Repr

namespace Location

/-- Follows one piece of a path.  Above the root there is nothing but the root. -/
def follow (l : Location) (piece : Text) : Location :=
  if Path.isTrivial piece then l
  else if piece = ['.', '.'] then ⟨l.names.dropLast⟩
  else ⟨l.names ++ [piece]⟩

/-- Whether one place is another or is on the way to it. -/
def isOnWayTo (l other : Location) : Bool :=
  l.names.isPrefixOf other.names

end Location

inductive FileItem where
  | file (content : Bytes)
  | directory
deriving DecidableEq, Repr

/-- The files and directories, and the place of the working directory, which is not the root unless
that is said.  Of two entries for a place the first counts. -/
structure FileStore where
  entries : List (Location × FileItem) := []
  working : Location := ⟨["work".toList]⟩
deriving Repr

namespace FileStore

/-- What there is at a place.  The working directory and those above it are always there. -/
def item? (s : FileStore) (l : Location) : Option FileItem :=
  if l.isOnWayTo s.working then some .directory else s.entries.lookup l

def put (s : FileStore) (l : Location) (item : FileItem) : FileStore :=
  { s with entries := (l, item) :: s.entries }

/-!
# Following paths
-/

def step (s : FileStore) (l : Location) (piece : Text) : Except FileError Location :=
  match s.item? l with
  | none => .error .notFound
  | some (.file _) => .error .notDirectory
  | some .directory => .ok (l.follow piece)

/-- Follows the pieces of a path, which all but the last must lead to directories. -/
def walk (s : FileStore) (l : Location) : List Text → Except FileError Location
  | [] => .ok l
  | piece :: rest =>
      match s.step l piece with
      | .ok l' => walk s l' rest
      | .error error => .error error

/-- Where a path is followed from. -/
def start (s : FileStore) (path : Path) : Location :=
  if Path.isAbsolute path then {} else s.working

def locate (s : FileStore) (path : Path) : Except FileError Location :=
  if path.isEmpty then .error .notFound else walk s (s.start path) (List.splitOn '/' path)

/-!
# Reading and writing
-/

def read (s : FileStore) (path : Path) : Except FileError Bytes :=
  match s.locate path with
  | .error error => .error error
  | .ok l =>
      match s.item? l with
      | none => .error .notFound
      | some .directory => .error .isDirectory
      | some (.file content) => .ok content

/-- A path without slashes at its end, of which the root keeps one. -/
def withoutSlashes (path : Path) : Path :=
  match Text.dropEndWhile (· == '/') path with
  | [] => path.take 1
  | front => front

def write (s : FileStore) (path : Path) (content : Bytes) : Except FileError FileStore :=
  match s.locate (withoutSlashes path) with
  | .error error => .error error
  | .ok l =>
      if path.getLast? = some '/' ∨ s.item? l = some .directory then .error .isDirectory
      else .ok (s.put l (.file content))

/-!
# Building and comparing stores
-/

def parents (l : Location) : List Location :=
  (List.range l.names.length).map fun n => ⟨l.names.take n⟩

/-- Puts something at a path and makes the directories on the way. -/
def add (s : FileStore) (path : Path) (item : FileItem) : FileStore :=
  let l := (List.splitOn '/' path).foldl Location.follow (s.start path)
  ((parents l).foldl (fun s d => s.put d .directory) s).put l item

def pathBelow? (s : FileStore) (l : Location) : Option Path :=
  if s.working.isOnWayTo l then
    some (List.intercalate ['/'] (l.names.drop s.working.names.length))
  else none

/-- The files below the working directory whose content is not the one they have in `before`. -/
def changes (before s : FileStore) : List (Path × Bytes) :=
  (s.entries.map Prod.fst).eraseDups.filterMap fun l =>
    match s.item? l with
    | some (.file content) =>
        if before.item? l = some (.file content) then none
        else (s.pathBelow? l).map fun path => (path, content)
    | _ => none

end FileStore
end EndpointDocs
