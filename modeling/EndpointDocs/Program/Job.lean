import EndpointDocs.Comment.Grouping
import EndpointDocs.Document.Basic
import EndpointDocs.Path.Output
import EndpointDocs.Program.Ending
import EndpointDocs.Program.Log
import EndpointDocs.Settings.Layers

/-!
# What a run does

A run is a tree of steps.  It reads files, writes files and adds records to the log, and goes on
with what the step gives.  What a step gives is left open here: `Job.run` answers from a store of
files, and a program answers from the files of the system.

## Order of steps

The settings are looked at first, then the names of all inputs, and then the inputs one by one.  With
an output path the endpoints of all inputs are gathered and written at the end; without one every
input with an endpoint gets a document of its own as soon as it has been read.
-/

namespace EndpointDocs

open Text (Bytes)

/-- The steps of a run. -/
inductive Job where
  | done (ending : Ending)
  | log (record : Log.Record) (next : Job)
  | read (path : Path) (next : Except FileError Bytes → Job)
  | write (path : Path) (content : Bytes) (next : Except FileError Unit → Job)

namespace Job

def fail (f : Failure) : Job :=
  done (.failed f)

def logAll (records : List Log.Record) (next : Job) : Job :=
  records.foldr log next

def writeDocument (path : Path) (format : Format) (es : List Endpoint) (next : Job) : Job :=
  write path (Text.encode (format.document es)) fun
    | .error error => fail (.unwritable path error)
    | .ok () => log (.documentWritten path es.length) next

/-!
# Inputs
-/

/-- The comments of a source in groups, without their places. -/
def commentGroups (source : Text) (comments : List Comment) : List (List Text) :=
  (Comment.groups source comments).map fun group => group.map Comment.text

def readSource (strict : Bool) (source : Text) : Reading :=
  Reading.ofGroups strict (commentGroups source (Comment.ofSource source))

/-- Takes what has been gathered from all inputs to its document. -/
def conclude (s : Settings) (gathered : List Endpoint) : Job :=
  match s.out with
  | some path =>
      if gathered.isEmpty then done .finished
      else writeDocument path s.format gathered (done .finished)
  | none => done .finished

def readText (path : Path) (next : Text → Job) : Job :=
  read path fun
    | .error error => fail (.unreadable path (.file error))
    | .ok bytes =>
        match Text.decode? bytes with
        | some source => next source
        | none => fail (.unreadable path .notUtf8)

/-- Logs the reading of a source and goes on with its endpoints. -/
def withEndpoints (strict : Bool) (path : Path) (source : Text) (next : List Endpoint → Job) : Job :=
  let reading := readSource strict source
  log (.commentsFound (Comment.ofSource source).length path)
    (logAll (reading.notes.map Log.Record.ofNote)
      (match reading.result with
        | .error rejection => fail (.incomplete path rejection)
        | .ok es => log (.inputRead path es.length) (next es)))

/-- Reads the inputs one by one; `gathered` is what has been found before for a document about
everything. -/
def documentInputs (s : Settings) (package : Option Text) (gathered : List Endpoint) :
    List Path → Job
  | [] => conclude s gathered
  | input :: rest =>
      readText input fun source =>
        withEndpoints s.strict input source fun es =>
          match s.out with
          | some _ => documentInputs s package (gathered ++ es) rest
          | none =>
              if es.isEmpty then documentInputs s package gathered rest
              else
                writeDocument (Path.document input s.format.extension package) s.format es
                  (documentInputs s package gathered rest)

/-!
# Settings and arguments
-/

def settingsName : Text :=
  "apidoc".toList

/-- The names that a settings file may have, in the order in which they are tried.  A file in another
data format is no settings file. -/
def settingsFiles : List Path :=
  ["toml", "json", "yaml", "yml"].map fun extension => settingsName ++ '.' :: extension.toList

def findSettings (next : Option Settings.File → Job) : List Path → Job
  | [] => next none
  | name :: rest =>
      read name fun
        | .ok content => next (some ⟨name, content⟩)
        | .error _ => findSettings next rest

/-- Reads the settings file, if there is one.  A file with the bare name hides it. -/
def withSettingsFile (next : Option Settings.File → Job) : Job :=
  read settingsName fun
    | .ok _ => next none
    | .error _ => findSettings next settingsFiles

def overrides (a : Arguments) : Settings.Overrides :=
  ⟨a.strict, a.format, a.out⟩

def packageVariable : Text :=
  "GOPACKAGE".toList

def packageOf (env : Settings.Environment) : Option Text :=
  (env.lookup packageVariable).filter fun name => !name.isEmpty

def withSettings (a : Arguments) (env : Settings.Environment) (s : Settings) : Job :=
  logAll (if s.strict then [.strictMode] else [])
    (match Path.firstOther? a.inputs with
      | some path => fail (.notGoSource path)
      | none => documentInputs s (packageOf env) [] a.inputs)

def ofArguments (a : Arguments) (env : Settings.Environment) : Job :=
  withSettingsFile fun file =>
    match Settings.load file env (overrides a) with
    | .error error => fail (.settings error)
    | .ok s => withSettings a env s

def ofCommandLine (args : List Text) (env : Settings.Environment) : Job :=
  match Arguments.read args with
  | .error error => done (.refused error)
  | .ok a => ofArguments a env

end Job
end EndpointDocs
