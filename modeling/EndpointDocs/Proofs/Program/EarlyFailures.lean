import EndpointDocs.Proofs.Program.Inputs
import Mathlib.Data.List.Basic

/-!
# Failures before the first input

Settings that are not accepted and inputs that do not name Go sources are found before any input is
read.  Such a run fails in the same way and with the same log whatever the files hold that it has
not looked at, and it leaves them as they are.

## The settings file

All that such a run takes from a store is the settings file, which is the one that is found.  So two
stores count as the same if they have the same settings file, or none, whatever else they hold.
-/

namespace EndpointDocs

namespace Path

theorem firstOther?_eq_some_iff {inputs : List Path} {path : Path} :
    firstOther? inputs = some path ↔
      ∃ before after, inputs = before ++ path :: after ∧
        (∀ p ∈ before, extension? p = some "go".toList) ∧ extension? path ≠ some "go".toList := by
  rw [firstOther?, List.find?_eq_some_iff_append]
  constructor
  · rintro ⟨hpath, before, after, hinputs, hbefore⟩
    refine ⟨before, after, hinputs, ?_, ?_⟩
    · simpa [isGoSource] using hbefore
    · simpa [isGoSource] using hpath
  · rintro ⟨before, after, hinputs, hbefore, hpath⟩
    refine ⟨?_, before, after, hinputs, ?_⟩
    · simpa [isGoSource] using hpath
    · simpa [isGoSource] using hbefore

theorem exists_firstOther? {inputs : List Path}
    (h : ∃ path ∈ inputs, extension? path ≠ some "go".toList) :
    ∃ path, firstOther? inputs = some path := by
  obtain ⟨path, hmem, hpath⟩ := h
  apply Option.isSome_iff_exists.mp
  rw [firstOther?, List.find?_isSome]
  refine ⟨path, hmem, ?_⟩
  simpa [isGoSource] using hpath

end Path

namespace Failure

theorem report_of_no_causes {f : Failure} (h : f.causes = []) :
    f.report = "Error: ".toList ++ f.message ++ ['\n'] := by
  unfold report
  simp only [h, List.isEmpty_nil, if_true, List.append_nil]

theorem report_notGoSource (path : Path) :
    (notGoSource path).report =
      "Error: input file ".toList ++ path ++ " doesn't have .go extension\n".toList := by
  have hfront : "Error: input file ".toList = "Error: ".toList ++ "input file ".toList := rfl
  have hback : " doesn't have .go extension\n".toList =
    " doesn't have .go extension".toList ++ ['\n'] := rfl
  rw [report_of_no_causes rfl]
  unfold message
  simp only [hfront, hback, List.append_assoc]

end Failure

namespace Job

/-- How a run fails before its first input, with its report and its log. -/
inductive EarlyFailure (a : Arguments) (env : Settings.Environment) (file : Option Settings.File) :
    Failure → Text → List Log.Record → Prop where
  | settings {error : Settings.Error} (hload : Settings.load file env (overrides a) = .error error) :
      EarlyFailure a env file (.settings error) ("Error: ".toList ++ error.message ++ ['\n']) []
  | input {s : Settings} {before after : List Path} {path : Path}
      (hload : Settings.load file env (overrides a) = .ok s)
      (hinputs : a.inputs = before ++ path :: after)
      (hbefore : ∀ p ∈ before, Path.extension? p = some "go".toList)
      (hpath : Path.extension? path ≠ some "go".toList) :
      EarlyFailure a env file (.notGoSource path)
        ("Error: input file ".toList ++ path ++ " doesn't have .go extension\n".toList)
        (if s.strict then [.strictMode] else [])

theorem exists_earlyFailure {a : Arguments} {env : Settings.Environment}
    {file : Option Settings.File}
    (h : (∃ error, Settings.load file env (overrides a) = .error error) ∨
      ∃ path ∈ a.inputs, Path.extension? path ≠ some "go".toList) :
    ∃ failure records, EarlyFailure a env file failure failure.report records := by
  cases hload : Settings.load file env (overrides a) with
  | error error =>
      refine ⟨.settings error, [], ?_⟩
      rw [Failure.report_of_no_causes rfl]
      exact .settings hload
  | ok s =>
      rcases h with ⟨error, herror⟩ | hother
      · rw [hload] at herror
        cases herror
      · obtain ⟨path, hfirst⟩ := Path.exists_firstOther? hother
        obtain ⟨before, after, hinputs, hbefore, hpath⟩ := Path.firstOther?_eq_some_iff.mp hfirst
        refine ⟨.notGoSource path, if s.strict then [.strictMode] else [], ?_⟩
        rw [Failure.report_notGoSource]
        exact .input hload hinputs hbefore hpath

/-!
# Runs that fail early
-/

variable (time : Text) (store : FileStore)

theorem run_of_earlyFailure {a : Arguments} {env : Settings.Environment} {failure : Failure}
    {report : Text} {records : List Log.Record}
    (h : EarlyFailure a env store.settingsFile? failure report records) :
    (ofArguments a env).run time store = ⟨.failed failure, records, store⟩ := by
  rw [run_ofArguments]
  cases h with
  | settings hload =>
      rw [hload]
  | input hload hinputs hbefore hpath =>
      have hfirst := Path.firstOther?_eq_some_iff.mpr ⟨_, _, hinputs, hbefore, hpath⟩
      rw [hload]
      simp only [withSettings, hfirst]
      rw [run_logAll]
      simp only [fail, run, lastRecords, List.append_nil]

end Job

namespace Run

theorem decided_before_inputs {args : List Text} {a : Arguments} (env : Settings.Environment)
    (store : FileStore) (hread : Arguments.read args = .ok a)
    (h : (∃ error, Settings.load store.settingsFile? env (Job.overrides a) = .error error) ∨
      ∃ path ∈ a.inputs, Path.extension? path ≠ some "go".toList) :
    ∃ failure records,
      Job.EarlyFailure a env store.settingsFile? failure failure.report records ∧
        (Ending.failed failure).exitCode = 1 ∧
          ∀ time store', store'.settingsFile? = store.settingsFile? →
            ofCommandLine time args env store' = ⟨.failed failure, records, store'⟩ := by
  obtain ⟨failure, records, hearly⟩ := Job.exists_earlyFailure h
  refine ⟨failure, records, hearly, rfl, ?_⟩
  intro time store' hsame
  rw [← hsame] at hearly
  rw [ofCommandLine, Job.ofCommandLine, hread]
  exact Job.run_of_earlyFailure time store' hearly

/-- Inputs of which the second one names no Go source. -/
def itemsAndNotes : List Text :=
  ["--strict".toList, "items.go".toList, "notes.txt".toList, "photo".toList]

theorem decided_before_inputs_itemsAndNotes :
    (∃ a, Arguments.read itemsAndNotes = .ok a ∧
      ∃ path ∈ a.inputs, Path.extension? path ≠ some "go".toList) ∧
    ∀ time store, store.settingsFile? = none →
      ofCommandLine time itemsAndNotes [] store =
        ⟨.failed (.notGoSource "notes.txt".toList), [.strictMode], store⟩ := by
  have hread : Arguments.read itemsAndNotes =
      .ok ⟨none, some true, none, ["items.go".toList, "notes.txt".toList, "photo".toList]⟩ := by
    decide +kernel
  have hother : ∃ path ∈ ["items.go".toList, "notes.txt".toList, "photo".toList],
      Path.extension? path ≠ some "go".toList := by
    decide +kernel
  have hnone : FileStore.items.settingsFile? = none := by
    decide +kernel
  obtain ⟨failure, records, -, -, hrun⟩ :=
    decided_before_inputs [] FileStore.items hread (Or.inr hother)
  have hitems : ofCommandLine [] itemsAndNotes [] FileStore.items =
      ⟨.failed (.notGoSource "notes.txt".toList), [.strictMode], FileStore.items⟩ := by
    rfl
  rw [hrun [] FileStore.items rfl] at hitems
  injection hitems with hending hrecords
  refine ⟨⟨_, hread, hother⟩, ?_⟩
  intro time store hsame
  rw [hrun time store (hsame.trans hnone.symm), hending, hrecords]

end Run
end EndpointDocs
