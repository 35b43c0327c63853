import EndpointDocs.Program.Run

/-!
# What a run makes of its inputs

The endpoints of an input are those of the source that its file holds, and there is a failure if
there is no such file, if it is no text, or if a strict reading ends early.  How a run ends and
which files it leaves does not depend on its log, so a run takes an input as one step: it fails with
the input's failure or goes on with its endpoints.
-/

namespace EndpointDocs

open Text (Bytes)

namespace FileStore

/-- The endpoints of the source that a store has at a path, or why a run cannot have them. -/
def endpointsOf (store : FileStore) (strict : Bool) (input : Path) :
    Except Failure (List Endpoint) :=
  match store.read input with
  | .error error => .error (.unreadable input (.file error))
  | .ok content =>
      match Text.decode? content with
      | none => .error (.unreadable input .notUtf8)
      | some source =>
          match (Job.readSource strict source).result with
          | .error rejection => .error (.incomplete input rejection)
          | .ok es => .ok es

theorem endpointsOf_eq_ok_iff {store : FileStore} {strict : Bool} {input : Path}
    {es : List Endpoint} :
    store.endpointsOf strict input = .ok es ↔
      ∃ content source, store.read input = .ok content ∧ Text.decode? content = some source ∧
        (Job.readSource strict source).result = .ok es := by
  rw [endpointsOf]
  cases store.read input with
  | error error =>
      simp
  | ok content =>
      cases hsource : Text.decode? content with
      | none =>
          simp [hsource]
      | some source =>
          cases hresult : (Job.readSource strict source).result with
          | error rejection =>
              simp [hsource, hresult]
          | ok found =>
              simp [hsource, hresult]

/-- Inputs with the same content have the same endpoints. -/
theorem endpointsOf_congr {store store' : FileStore} {strict : Bool} {input input' : Path}
    (h : ∀ content, store'.read input' = .ok content ↔ store.read input = .ok content)
    (es : List Endpoint) :
    store'.endpointsOf strict input' = .ok es ↔ store.endpointsOf strict input = .ok es := by
  rw [endpointsOf_eq_ok_iff, endpointsOf_eq_ok_iff]
  simp only [h]

/-- A store whose working directory is `/shop`, with a source about an endpoint, a source without
one and a file that is no text, and with an empty directory `/docs`. -/
def items : FileStore :=
  let source := "// apidoc(item)\n// GET /items\n// Success Response 200\npackage items\n".toList
  let files := [("items.go".toList, Text.encode source),
    ("main.go".toList, Text.encode "package main\n".toList), ("photo.go".toList, [0xFF])]
  files.foldl (fun store f => store.add f.1 (.file f.2))
    (({ working := ⟨["shop".toList]⟩ } : FileStore).add "/docs".toList .directory)

def itemDocument : Text :=
  "### GET [/items]\n\n#### Example success response\n`200`: OK\n\n".toList

end FileStore

namespace Run

def outcome (r : Run) : Ending × FileStore :=
  (r.ending, r.store)

theorem outcome_eq_iff {r : Run} {ending : Ending} {store : FileStore} :
    r.outcome = (ending, store) ↔ r.ending = ending ∧ r.store = store :=
  Iff.of_eq (Prod.mk.injEq ..)

end Run

namespace Job

/-!
# Steps of a run
-/

variable (time : Text) (store : FileStore)

theorem outcome_run_log (record : Log.Record) (next : Job) :
    ((log record next).run time store).outcome = (next.run time store).outcome := rfl

theorem run_logAll (records : List Log.Record) (next : Job) :
    (logAll records next).run time store =
      { next.run time store with records := records ++ (next.run time store).records } := by
  induction records with
  | nil =>
      rfl
  | cons record rest ih =>
      rw [logAll] at ih ⊢
      rw [List.foldr_cons, run, ih]
      rfl

theorem outcome_run_logAll (records : List Log.Record) (next : Job) :
    ((logAll records next).run time store).outcome = (next.run time store).outcome := by
  rw [run_logAll]
  rfl

theorem outcome_run_input (strict : Bool) (input : Path) (next : List Endpoint → Job) :
    ((readText input fun source => withEndpoints strict input source next).run time store).outcome =
      match store.endpointsOf strict input with
      | .error failure => (.failed failure, store)
      | .ok es => ((next es).run time store).outcome := by
  rw [readText, run, FileStore.endpointsOf]
  cases store.read input with
  | error error =>
      rfl
  | ok content =>
      cases hsource : Text.decode? content with
      | none =>
          simp only [hsource]
          rfl
      | some source =>
          simp only [hsource]
          rw [withEndpoints, outcome_run_log, outcome_run_logAll]
          cases (readSource strict source).result with
          | error rejection =>
              rfl
          | ok es =>
              rfl

theorem outcome_run_writeDocument (path : Path) (format : Format) (es : List Endpoint)
    (next : Job) :
    ((writeDocument path format es next).run time store).outcome =
      match store.write path (Text.encode (format.document es)) with
      | .error error => (.failed (.unwritable path error), store)
      | .ok store' => (next.run time store').outcome := by
  rw [writeDocument, run]
  cases store.write path (Text.encode (format.document es)) with
  | error error =>
      rfl
  | ok store' =>
      rfl

theorem run_ofArguments (a : Arguments) (env : Settings.Environment) :
    (ofArguments a env).run time store =
      match Settings.load store.settingsFile? env (overrides a) with
      | .error error => ⟨.failed (.settings error), [], store⟩
      | .ok s => (withSettings a env s).run time store := by
  rw [ofArguments, run_withSettingsFile]
  cases Settings.load store.settingsFile? env (overrides a) with
  | error error =>
      rfl
  | ok s =>
      rfl

/-- A run fails before its first input, or goes through its inputs one by one. -/
theorem outcome_ofCommandLine (args : List Text) (env : Settings.Environment) :
    (Run.ofCommandLine time args env store).outcome =
      match Arguments.read args with
      | .error error => (.refused error, store)
      | .ok a =>
          match Settings.load store.settingsFile? env (overrides a) with
          | .error error => (.failed (.settings error), store)
          | .ok s =>
              match Path.firstOther? a.inputs with
              | some path => (.failed (.notGoSource path), store)
              | none =>
                  ((documentInputs s (packageOf env) [] a.inputs).run time store).outcome := by
  rw [Run.ofCommandLine, ofCommandLine]
  cases Arguments.read args with
  | error error =>
      rfl
  | ok a =>
      dsimp only
      rw [run_ofArguments]
      cases Settings.load store.settingsFile? env (overrides a) with
      | error error =>
          rfl
      | ok s =>
          simp only [withSettings]
          rw [outcome_run_logAll]
          cases Path.firstOther? a.inputs with
          | some path =>
              rfl
          | none =>
              rfl

/-- With settings and sources only, a run goes through its inputs. -/
theorem outcome_ofCommandLine_of_sources {args : List Text} {env : Settings.Environment}
    {a : Arguments} {s : Settings} (hread : Arguments.read args = .ok a)
    (hload : Settings.load store.settingsFile? env (overrides a) = .ok s)
    (hsources : ∀ p ∈ a.inputs, Path.isGoSource p = true) :
    (Run.ofCommandLine time args env store).outcome =
      ((documentInputs s (packageOf env) [] a.inputs).run time store).outcome := by
  have hall : Path.firstOther? a.inputs = none := by
    rw [Path.firstOther?, List.find?_eq_none]
    intro p hp
    simp [hsources p hp]
  simp only [outcome_ofCommandLine, hread, hload, hall]

end Job
end EndpointDocs
