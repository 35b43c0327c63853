import EndpointDocs.Program.Job

/-!
# Runs on a store of files

A run on a store of files ends in some way, leaves a log, and leaves the store with the documents
that it has written.  The last record of a run that finishes tells the time it took.
-/

namespace EndpointDocs

/-- What a run on a store of files comes to. -/
structure Run where
  ending : Ending
  records : List Log.Record
  store : FileStore

namespace Run

def withRecord (record : Log.Record) (r : Run) : Run :=
  { r with records := record :: r.records }

def log (filter : Log.Filter) (r : Run) : List Log.Record :=
  r.records.filter filter.shows

end Run

namespace Job

def lastRecords (time : Text) : Ending → List Log.Record
  | .finished => [.finished time]
  | _ => []

def run (time : Text) : Job → FileStore → Run
  | done ending, store => ⟨ending, lastRecords time ending, store⟩
  | log record next, store => (run time next store).withRecord record
  | read path next, store => run time (next (store.read path)) store
  | write path content next, store =>
      match store.write path content with
      | .ok store' => run time (next (.ok ())) store'
      | .error error => run time (next (.error error)) store

end Job

/-!
# Settings files of a store
-/

namespace FileStore

/-- The settings file of a store, if there is one.  A file with the bare name hides it. -/
def settingsFile? (store : FileStore) : Option Settings.File :=
  match store.read Job.settingsName with
  | .ok _ => none
  | .error _ =>
      Job.settingsFiles.findSome? fun name =>
        (store.read name).toOption.map fun content => ⟨name, content⟩

end FileStore

namespace Job

theorem run_findSettings (time : Text) (next : Option Settings.File → Job) (store : FileStore)
    (names : List Path) :
    (findSettings next names).run time store =
      (next (names.findSome? fun name =>
        (store.read name).toOption.map fun content => ⟨name, content⟩)).run time store := by
  induction names with
  | nil => rfl
  | cons name rest ih =>
      simp only [findSettings, run, List.findSome?_cons]
      cases store.read name with
      | ok content => rfl
      | error error => simpa [Except.toOption] using ih

theorem run_withSettingsFile (time : Text) (next : Option Settings.File → Job)
    (store : FileStore) :
    (withSettingsFile next).run time store = (next store.settingsFile?).run time store := by
  simp only [withSettingsFile, run, FileStore.settingsFile?]
  cases store.read settingsName with
  | ok content => rfl
  | error error => exact run_findSettings time next store settingsFiles

end Job

def Run.ofCommandLine (time : Text) (args : List Text) (env : Settings.Environment)
    (store : FileStore) : Run :=
  (Job.ofCommandLine args env).run time store

end EndpointDocs
