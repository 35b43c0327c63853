import EndpointDocs.Program.Job

/-!
# The program

Takes the steps of a run on the files of the system: reads and writes files, prints the records of
the log that the filter shows and the report of a failure to the standard error stream, and gives
the exit code.
-/

namespace EndpointDocs
namespace CommandLine

def variableNames : List Text :=
  [Log.Filter.variableName, Job.packageVariable] ++
    [Settings.Key.strict, .format, .out].map fun k => (Settings.variableName k).map Char.toUpper

/-- The environment of the program; names and values stand as `name=value` with a null character
behind each. -/
def readEnvironment : IO Settings.Environment := do
  try
    let bytes ← IO.FS.readBinFile "/proc/self/environ"
    let entries := List.splitOn '\x00' (Text.decodeLossy bytes.toList)
    return entries.filterMap fun entry =>
      match entry.dropWhile (· != '=') with
      | _ :: value => some (entry.takeWhile (· != '='), value)
      | [] => none
  catch _ =>
    variableNames.filterMapM fun name => do
      return (← IO.getEnv (String.ofList name)).map fun value => (name, value.toList)

def fileErrorOf : IO.Error → FileError
  | .noFileOrDirectory .. => .notFound
  | .inappropriateType _ _ message =>
      if message == "Is a directory" then .isDirectory else .notDirectory
  | error => .other error.toString.toList

def attempt {α : Type} (action : IO α) : IO (Except FileError α) := do
  try
    return .ok (← action)
  catch error =>
    return .error (fileErrorOf error)

/-- The time since the start in seconds, with two places. -/
def elapsed (start : Nat) : IO Text := do
  let hundredths := ((← IO.monoMsNow) - start + 5) / 10
  let fraction := Numeral.decimal (hundredths % 100)
  return Numeral.decimal (hundredths / 100) ++ '.' ::
    List.replicate (2 - fraction.length) '0' ++ fraction ++ ['s']

def printRecord (filter : Log.Filter) (record : Log.Record) : IO Unit :=
  if filter.shows record then IO.eprintln (String.ofList record.line) else return

def perform (filter : Log.Filter) : Job → IO Ending
  | .done ending => return ending
  | .log record next => do
      printRecord filter record
      perform filter next
  | .read path next => do
      let content ← attempt (IO.FS.readBinFile (String.ofList path))
      perform filter (next (content.map ByteArray.toList))
  | .write path content next => do
      let result ← attempt
        (IO.FS.writeBinFile (String.ofList path) (ByteArray.mk content.toArray))
      perform filter (next result)

def usage : String :=
  "Usage: apidoc [OPTIONS] <INPUTS>...\n\n" ++
    "Generate API docs from apidoc(...) comment blocks in Go sources\n\n" ++
    "Arguments:\n  <INPUTS>...  Go source files to scan\n\n" ++
    "Options:\n" ++
    "  -o, --out <OUT>        Write every endpoint into this file instead of one per input\n" ++
    "      --strict[=<BOOL>]  Abort on the first endpoint that fails validation\n" ++
    "  -f, --format <FORMAT>  Output format: markdown, html or json (default: markdown)\n" ++
    "  -h, --help             Print help"

def describeArgumentError : ArgumentError → String
  | .missingInput => "error: no input was given"
  | .invalidValue => "error: an option or input lacks a value or has an invalid one"
  | .repeatedOption => "error: an option was given more than once"
  | .unknownOption => "error: unknown option"
  | .unneededValue => "error: an option was given a value that it does not take"
  | .helpRequested => usage

def run (args : List Text) : IO UInt32 := do
  let start ← IO.monoMsNow
  let env ← readEnvironment
  let filter := Log.Filter.ofEnvironment env
  let ending ← perform filter (Job.ofCommandLine args env)
  match ending with
  | .finished => printRecord filter (.finished (← elapsed start))
  | .refused .helpRequested => IO.println usage
  | .refused error => IO.eprintln (describeArgumentError error ++ "\n\n" ++ usage)
  | .failed failure => IO.eprint (String.ofList failure.report)
  return ending.exitCode.toUInt32

end CommandLine
end EndpointDocs

def main (args : List String) : IO UInt32 :=
  EndpointDocs.CommandLine.run (args.map String.toList)
