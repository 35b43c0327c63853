import EndpointDocs.Settings.Basic
import EndpointDocs.Text.Utf8
import EndpointDocs.Value.Json.Reader
import EndpointDocs.Value.Toml.Reader
import EndpointDocs.Value.Yaml.Reader

/-!
# Layers of settings

Each setting is looked for in four places, and the last one that gives it wins: a default, the
settings file, the environment, and the command line.  Only the value that wins has to be of a
fitting kind.  A settings file that cannot be read at all is an error, whatever else is given.

## Tables

A table adds its entries to what is given in the places before it.  So a table with entries takes
the place of a value, and has no place of its own that errors could tell, while an empty table
leaves a value as it is.

## Data formats

The extension of a settings file tells its data format, and the reader of that format gives the
entries.  A reader that refuses more makes more files unreadable; how the entries of a file that is
read are layered and converted does not depend on it.

## Names

The names in a settings file and those of environment variables may be in letters of any case.
-/

namespace EndpointDocs
namespace Settings

structure File where
  name : Path
  content : Text.Bytes
deriving DecidableEq, Repr

structure Overrides where
  strict : Option Bool := none
  format : Option Text := none
  out : Option Path := none
deriving DecidableEq, Repr

abbrev Environment := List (Text × Text)

/-- What one of the places gives for each setting. -/
abbrev Layer := Key → Option Given

/-!
# Settings files
-/

/-- The text of a settings file, without a byte order mark. -/
def File.text (f : File) : Text :=
  match Text.decodeLossy f.content with
  | c :: rest => if c = Char.ofNat 0xFEFF then rest else c :: rest
  | [] => []

/-- The value of a settings file; its extension tells the data format. -/
def File.value? (f : File) : Option Value :=
  if Path.extension? f.name = some "toml".toList then Toml.read? f.text
  else if Path.extension? f.name = some "json".toList then Json.read? f.text
  else Yaml.read? f.text

/-- The entries of a settings file, which must be a table. -/
def File.entries (f : File) : Except Error (List (Text × Value)) :=
  match f.value? with
  | some (.table entries) => .ok entries
  | _ => .error (.unreadableFile f.name)

def fileEntries : Option File → Except Error (List (Text × Value))
  | some f => f.entries
  | none => .ok []

/-!
# Layers
-/

/-- What a run does if nothing else is said. -/
def defaults : Layer
  | .strict => some ⟨.bool false, none⟩
  | .format => some ⟨.text Format.markdown.name, none⟩
  | .out => none

def ofEntries (file : Option File) (entries : List (Text × Value)) : Layer := fun k =>
  (Value.lookup? k.name (entries.map fun entry => (Text.lowercase entry.1, entry.2))).map fun v =>
    ⟨v, file.map File.name⟩

/-- The name of the environment variable of a setting, in lower case. -/
def variableName (k : Key) : Text :=
  "apidoc_".toList ++ k.name

def ofEnvironment (env : Environment) : Layer := fun k =>
  ((env.reverse.find? fun entry => Text.lowercase entry.1 == variableName k)).map fun entry =>
    ⟨.text entry.2, some "the environment".toList⟩

def ofOverrides (o : Overrides) : Layer
  | .strict => o.strict.map fun b => ⟨.bool b, none⟩
  | .format => o.format.map fun t => ⟨.text t, none⟩
  | .out => o.out.map fun t => ⟨.text t, none⟩

/-- A value over what is given in the places before it. -/
def Given.over (g : Given) (lower : Option Given) : Given :=
  match g.value with
  | .table [] => lower.getD ⟨.table [], none⟩
  | .table entries => ⟨.table entries, none⟩
  | _ => g

def Layer.over (upper lower : Layer) : Layer := fun k =>
  match upper k with
  | some g => some (g.over (lower k))
  | none => lower k

def layered (file : Option File) (entries : List (Text × Value)) (env : Environment)
    (o : Overrides) : Layer :=
  (ofOverrides o).over ((ofEnvironment env).over ((ofEntries file entries).over defaults))

/-- The settings that a layer gives.  A setting that must be given counts as null if it is not.  Of
several that do not fit the first one here is told. -/
def ofLayer (layer : Layer) : Except Error Settings := do
  let strict ← strictOf ((layer .strict).getD ⟨.null, none⟩)
  let name ← formatNameOf ((layer .format).getD ⟨.null, none⟩)
  let out ← outOf ((layer .out).getD ⟨.null, none⟩)
  let format ← formatOf name
  return { strict, format, out }

def load (file : Option File) (env : Environment) (o : Overrides) : Except Error Settings :=
  match fileEntries file with
  | .ok entries => ofLayer (layered file entries env o)
  | .error error => .error error

end Settings
end EndpointDocs
