import EndpointDocs.Block.Reading
import EndpointDocs.Program.Arguments
import EndpointDocs.Program.FileStore
import EndpointDocs.Settings.Basic

/-!
# How a run ends

A run finishes, or it is refused because of its arguments, or it fails.  A failure is reported with
its causes, the most immediate one first.
-/

namespace EndpointDocs

inductive InputError where
  | file (error : FileError)
  | notUtf8
deriving DecidableEq, Repr

inductive Failure where
  | settings (error : Settings.Error)
  | notGoSource (path : Path)
  | unreadable (path : Path) (error : InputError)
  | incomplete (path : Path) (rejection : Rejection)
  | unwritable (path : Path) (error : FileError)
deriving DecidableEq, Repr

inductive Ending where
  | finished
  | refused (error : ArgumentError)
  | failed (failure : Failure)
deriving DecidableEq, Repr

namespace InputError

def message : InputError → Text
  | file error => error.message
  | notUtf8 => "stream did not contain valid UTF-8".toList

end InputError

namespace Failure

def atPath (path : Path) (message : Text) : Text :=
  path ++ ": ".toList ++ message

def message : Failure → Text
  | settings error => error.message
  | notGoSource path => "input file ".toList ++ path ++ " doesn't have .go extension".toList
  | unreadable path error => atPath path error.message
  | incomplete path _ => "reading ".toList ++ path
  | unwritable path error => atPath path error.message

/-- The causes of a failure, the most immediate one first. -/
def causes : Failure → List Text
  | settings _ => []
  | notGoSource _ => []
  | unreadable _ error => [error.message]
  | incomplete _ rejection => [rejection.message, rejection.problem.message]
  | unwritable _ error => [error.message]

/-- A text behind a mark, with its later lines indented as far as the first. -/
def indented (mark t : Text) : Text :=
  mark ++ List.intercalate ('\n' :: List.replicate mark.length ' ') (Text.lines t)

/-- Causes with their numbers. -/
def numbered (n : Nat) : List Text → List Text
  | [] => []
  | cause :: rest =>
      indented ("    ".toList ++ Numeral.decimal n ++ ": ".toList) cause :: numbered (n + 1) rest

/-- The causes as they are listed: numbered if there is more than one. -/
def listed : List Text → List Text
  | [cause] => [indented "    ".toList cause]
  | causes => numbered 0 causes

def report (f : Failure) : Text :=
  "Error: ".toList ++ f.message ++
    (if f.causes.isEmpty then []
      else "\n\nCaused by:\n".toList ++ Text.unlines (listed f.causes)) ++ ['\n']

end Failure

namespace Ending

def exitCode : Ending → Nat
  | finished => 0
  | refused .helpRequested => 0
  | refused _ => 2
  | failed _ => 1

end Ending
end EndpointDocs
