import EndpointDocs.Proofs.Program.Change
import EndpointDocs.Proofs.Program.Inputs

/-!
# Runs with an output path

With an output path a run only reads until the endpoints of all inputs have been gathered, so a
failure before that leaves every file as it was.  Then there is one document about all endpoints, in
the order of the inputs, unless there are none.
-/

namespace EndpointDocs
namespace Job

/-!
# Reading all inputs
-/

variable (time : Text) (store : FileStore)

theorem outcome_run_conclude {s : Settings} {out : Path} (hout : s.out = some out)
    (es : List Endpoint) :
    ((conclude s es).run time store).outcome =
      if es = [] then (.finished, store)
      else
        match store.write out (Text.encode (s.format.document es)) with
        | .error error => (.failed (.unwritable out error), store)
        | .ok store' => (.finished, store') := by
  rw [conclude, hout]
  cases es with
  | nil =>
      rfl
  | cons e rest =>
      rw [if_neg (List.cons_ne_nil e rest)]
      exact outcome_run_writeDocument time store out s.format (e :: rest) (done .finished)

/-- A run that gathers endpoints fails with the first input that it cannot take, or comes to its end
with the endpoints of all inputs. -/
theorem outcome_run_gathering {s : Settings} {out : Path} (hout : s.out = some out)
    (package : Option Text) (gathered : List Endpoint) (inputs : List Path) :
    (∃ input ∈ inputs, ∃ failure, store.endpointsOf s.strict input = .error failure ∧
      ((documentInputs s package gathered inputs).run time store).outcome =
        (.failed failure, store)) ∨
    ∃ ess, List.Forall₂ (fun input es => store.endpointsOf s.strict input = .ok es) inputs ess ∧
      ((documentInputs s package gathered inputs).run time store).outcome =
        ((conclude s (gathered ++ ess.flatten)).run time store).outcome := by
  induction inputs generalizing gathered with
  | nil =>
      refine Or.inr ⟨[], List.Forall₂.nil, ?_⟩
      rw [documentInputs, List.flatten_nil, List.append_nil]
  | cons input rest ih =>
      rw [documentInputs, outcome_run_input, hout]
      cases hinput : store.endpointsOf s.strict input with
      | error failure =>
          exact Or.inl ⟨input, List.mem_cons_self, failure, hinput, rfl⟩
      | ok es =>
          rcases ih (gathered ++ es) with
            ⟨other, hother, failure, hfailure, hrun⟩ | ⟨ess, hess, hrun⟩
          · exact Or.inl ⟨other, List.mem_cons_of_mem _ hother, failure, hfailure, hrun⟩
          · refine Or.inr ⟨es :: ess, List.Forall₂.cons hinput hess, ?_⟩
            rw [List.flatten_cons, ← List.append_assoc]
            exact hrun

end Job

namespace Run

/-!
# All or nothing
-/

/-- Why a run fails before it has gathered the endpoints of all inputs. -/
inductive Hindrance (args : List Text) (env : Settings.Environment) (store : FileStore) :
    Failure → Prop where
  | settings {a : Arguments} {error : Settings.Error} (hread : Arguments.read args = .ok a)
      (hload : Settings.load store.settingsFile? env (Job.overrides a) = .error error) :
      Hindrance args env store (.settings error)
  | notGoSource {a : Arguments} {path : Path} (hread : Arguments.read args = .ok a)
      (hpath : Path.firstOther? a.inputs = some path) :
      Hindrance args env store (.notGoSource path)
  | input {a : Arguments} {s : Settings} {input : Path} {failure : Failure}
      (hread : Arguments.read args = .ok a)
      (hload : Settings.load store.settingsFile? env (Job.overrides a) = .ok s)
      (hinput : input ∈ a.inputs) (hfailure : store.endpointsOf s.strict input = .error failure) :
      Hindrance args env store failure

/-- Whether all inputs can be taken, and what they have for the document at the output path. -/
structure Gathers (args : List Text) (env : Settings.Environment) (store : FileStore)
    (s : Settings) (out : Path) (es : List Endpoint) : Prop where
  output : s.out = some out
  inputs : ∃ a ess, Arguments.read args = .ok a ∧
    Settings.load store.settingsFile? env (Job.overrides a) = .ok s ∧
    List.Forall₂ (fun input es => store.endpointsOf s.strict input = .ok es) a.inputs ess ∧
    es = ess.flatten

/-- A run with an output path, or one that fails before it has any, comes to the end of its inputs
unless something hinders it. -/
theorem outcome_cases (time : Text) (args : List Text) (env : Settings.Environment)
    (store : FileStore)
    (hout : ∀ a s, Arguments.read args = .ok a →
      Settings.load store.settingsFile? env (Job.overrides a) = .ok s → s.out ≠ none) :
    (∃ error, (ofCommandLine time args env store).outcome = (.refused error, store)) ∨
    (∃ failure, Hindrance args env store failure ∧
      (ofCommandLine time args env store).outcome = (.failed failure, store)) ∨
    ∃ s out es, Gathers args env store s out es ∧
      (ofCommandLine time args env store).outcome =
        ((Job.conclude s es).run time store).outcome := by
  rw [Job.outcome_ofCommandLine]
  cases hread : Arguments.read args with
  | error error =>
      exact Or.inl ⟨error, rfl⟩
  | ok a =>
      dsimp only
      cases hload : Settings.load store.settingsFile? env (Job.overrides a) with
      | error error =>
          exact Or.inr (Or.inl ⟨.settings error, .settings hread hload, rfl⟩)
      | ok s =>
          dsimp only
          cases hpath : Path.firstOther? a.inputs with
          | some path =>
              exact Or.inr (Or.inl ⟨.notGoSource path, .notGoSource hread hpath, rfl⟩)
          | none =>
              rcases Option.ne_none_iff_exists'.mp (hout a s hread hload) with ⟨out, hsome⟩
              rcases Job.outcome_run_gathering time store hsome (Job.packageOf env) [] a.inputs with
                ⟨input, hinput, failure, hfailure, hrun⟩ | ⟨ess, hess, hrun⟩
              · exact Or.inr (Or.inl ⟨failure, .input hread hload hinput hfailure, hrun⟩)
              · exact Or.inr (Or.inr ⟨s, out, ess.flatten,
                  ⟨hsome, a, ess, hread, hload, hess, rfl⟩, hrun⟩)

/-- A run with an output path, or one that fails before it has any, writes nothing unless it has
read all inputs, and then nothing but the document about everything that it has read. -/
theorem all_or_nothing (time : Text) (args : List Text) (env : Settings.Environment)
    (store : FileStore)
    (hout : ∀ a s, Arguments.read args = .ok a →
      Settings.load store.settingsFile? env (Job.overrides a) = .ok s → s.out ≠ none) :
    (∀ error, (ofCommandLine time args env store).ending = .refused error →
      (ofCommandLine time args env store).store = store) ∧
    (∀ failure, (ofCommandLine time args env store).ending = .failed failure →
      (Hindrance args env store failure ∧ (ofCommandLine time args env store).store = store) ∨
      ∃ s out es error, Gathers args env store s out es ∧ es ≠ [] ∧
        store.write out (Text.encode (s.format.document es)) = .error error ∧
        failure = .unwritable out error) ∧
    ((ofCommandLine time args env store).ending = .finished →
      ∃ s out es, Gathers args env store s out es ∧
        (es = [] → (ofCommandLine time args env store).store = store) ∧
        (es ≠ [] →
          store.write out (Text.encode (s.format.document es)) =
            .ok (ofCommandLine time args env store).store ∧
          FileStore.Written [(out, Text.encode (s.format.document es))] store
            (ofCommandLine time args env store).store)) := by
  have hcases := outcome_cases time args env store hout
  generalize ofCommandLine time args env store = r at hcases ⊢
  rcases hcases with ⟨error, hrun⟩ | ⟨failure, hindrance, hrun⟩ | ⟨s, out, es, hgathers, hrun⟩
  · rcases outcome_eq_iff.mp hrun with ⟨hending, hstore⟩
    rw [hending, hstore]
    exact ⟨fun _ _ => rfl, nofun, nofun⟩
  · rcases outcome_eq_iff.mp hrun with ⟨hending, hstore⟩
    rw [hending, hstore]
    refine ⟨nofun, ?_, nofun⟩
    intro other hother
    injection hother with hsame
    rw [← hsame]
    exact Or.inl ⟨hindrance, rfl⟩
  · rw [Job.outcome_run_conclude time store hgathers.output] at hrun
    by_cases hempty : es = []
    · rw [if_pos hempty] at hrun
      rcases outcome_eq_iff.mp hrun with ⟨hending, hstore⟩
      rw [hending, hstore]
      refine ⟨nofun, nofun, ?_⟩
      intro _
      exact ⟨s, out, es, hgathers, fun _ => rfl, fun hne => absurd hempty hne⟩
    · rw [if_neg hempty] at hrun
      cases hwrite : store.write out (Text.encode (s.format.document es)) with
      | error error =>
          rw [hwrite] at hrun
          rcases outcome_eq_iff.mp hrun with ⟨hending, hstore⟩
          rw [hending]
          refine ⟨nofun, ?_, nofun⟩
          intro other hother
          injection hother with hsame
          exact Or.inr ⟨s, out, es, error, hgathers, hempty, hwrite, hsame.symm⟩
      | ok store' =>
          rw [hwrite] at hrun
          rcases outcome_eq_iff.mp hrun with ⟨hending, hstore⟩
          rw [hending, hstore]
          refine ⟨nofun, nofun, ?_⟩
          intro _
          exact ⟨s, out, es, hgathers, fun h => absurd h hempty,
            fun _ => ⟨hwrite, FileStore.Written.of_write hwrite⟩⟩

/-- A source and a file that is no text. -/
def itemsAndPhoto : List Text :=
  ["-o".toList, "/docs/api.md".toList, "/shop/items.go".toList, "photo.go".toList]

/-- Two paths to one source. -/
def itemsTwice : List Text :=
  ["-o".toList, "/docs/api.md".toList, "/shop/items.go".toList, "../shop/items.go".toList]

theorem all_or_nothing_items :
    ((∀ a s, Arguments.read itemsAndPhoto = .ok a →
        Settings.load FileStore.items.settingsFile? [] (Job.overrides a) = .ok s → s.out ≠ none) ∧
      (ofCommandLine [] itemsAndPhoto [] FileStore.items).ending =
        .failed (.unreadable "photo.go".toList .notUtf8) ∧
      (ofCommandLine [] itemsAndPhoto [] FileStore.items).store = FileStore.items) ∧
    (∀ a s, Arguments.read itemsTwice = .ok a →
        Settings.load FileStore.items.settingsFile? [] (Job.overrides a) = .ok s → s.out ≠ none) ∧
      (ofCommandLine [] itemsTwice [] FileStore.items).ending = .finished ∧
      FileStore.Written [("/docs/api.md".toList, Text.encode
        (FileStore.itemDocument ++ "\n---\n\n".toList ++ FileStore.itemDocument))] FileStore.items
        (ofCommandLine [] itemsTwice [] FileStore.items).store := by
  have hload : Settings.load FileStore.items.settingsFile? []
      ⟨none, none, some "/docs/api.md".toList⟩ =
        .ok ⟨false, .markdown, some "/docs/api.md".toList⟩ := by
    decide +kernel
  have hout : ∀ args inputs,
      Arguments.read args = .ok ⟨some "/docs/api.md".toList, none, none, inputs⟩ →
      ∀ a s, Arguments.read args = .ok a →
        Settings.load FileStore.items.settingsFile? [] (Job.overrides a) = .ok s →
          s.out = some "/docs/api.md".toList := by
    intro args inputs hread a s ha hs
    rw [hread] at ha
    cases ha
    rw [Job.overrides, hload] at hs
    cases hs
    rfl
  have houtPhoto := hout itemsAndPhoto ["/shop/items.go".toList, "photo.go".toList]
    (by decide +kernel)
  have houtTwice := hout itemsTwice ["/shop/items.go".toList, "../shop/items.go".toList]
    (by decide +kernel)
  have hsomePhoto := fun a s ha hs => Option.ne_none_iff_exists'.mpr ⟨_, houtPhoto a s ha hs⟩
  have hsomeTwice := fun a s ha hs => Option.ne_none_iff_exists'.mpr ⟨_, houtTwice a s ha hs⟩
  have hunreadable : (ofCommandLine [] itemsAndPhoto [] FileStore.items).ending =
      .failed (.unreadable "photo.go".toList .notUtf8) := by
    decide +kernel
  have hfinished : (ofCommandLine [] itemsTwice [] FileStore.items).ending = .finished := by
    decide +kernel
  have hdocument : (ofCommandLine [] itemsTwice [] FileStore.items).store.read
      "/docs/api.md".toList = .ok (Text.encode
        (FileStore.itemDocument ++ "\n---\n\n".toList ++ FileStore.itemDocument)) := by
    decide +kernel
  refine ⟨⟨hsomePhoto, hunreadable, ?_⟩, hsomeTwice, hfinished, ?_⟩
  · rcases all_or_nothing [] itemsAndPhoto [] FileStore.items hsomePhoto with ⟨-, hfailed, -⟩
    rcases hfailed _ hunreadable with ⟨-, hstore⟩ | ⟨s, out, es, error, -, -, -, hunwritable⟩
    · exact hstore
    · cases hunwritable
  · rcases all_or_nothing [] itemsTwice [] FileStore.items hsomeTwice with ⟨-, -, hend⟩
    rcases hend hfinished with ⟨s, out, es, ⟨hsome, a, -, ha, hs, -, -⟩, hempty, hwritten⟩
    have hpath : out = "/docs/api.md".toList :=
      Option.some.inj (hsome.symm.trans (houtTwice a s ha hs))
    have hne : es ≠ [] := by
      -- Without endpoints the store would be as before, where the document is not.
      intro hnil
      rw [hempty hnil] at hdocument
      exact absurd hdocument (by decide +kernel)
    have hbytes := (hwritten hne).right.content _ (List.mem_singleton_self _)
    rw [hpath, hdocument] at hbytes
    rw [Except.ok.inj hbytes, ← hpath]
    exact (hwritten hne).right

end Run
end EndpointDocs
