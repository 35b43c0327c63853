import EndpointDocs.Proofs.Program.Documents

/-!
# Order and repetition

What a run without an output path leaves is told by the documents about its inputs, which are the
same in any order and however often an input is given.  The run changes neither its inputs nor the
settings file, so it can be taken again, and then it writes what is already there.
-/

namespace EndpointDocs
namespace FileStore

variable {store : FileStore} {s : Settings} {package : Option Text}

/-!
# Files that a run without an output path leaves alone
-/

theorem locate_of_isName {name : Text} (h : Path.IsName name) (store : FileStore) :
    store.locate name = .ok (store.working.follow name) := by
  have hpieces : List.splitOn '/' name = [name] := List.splitOn_eq_singleton h.one_piece
  have hstart : store.start name = store.working := by
    rw [start, Path.isAbsolute_of_not_mem h.one_piece, if_neg Bool.false_ne_true]
  have hdirectory : store.item? store.working = some .directory :=
    if_pos (List.isPrefixOf_iff_prefix.mpr (List.prefix_refl _))
  rw [locate_eq_ok_iff, hpieces, hstart, walk_cons_eq_ok_iff]
  exact ⟨h.ne_nil, hdirectory, rfl⟩

theorem settingsFile?_congr {after : FileStore}
    (h : ∀ name ∈ Job.settingsName :: Job.settingsFiles, after.read name = store.read name) :
    after.settingsFile? = store.settingsFile? := by
  have hfind : ∀ names : List Path, (∀ name ∈ names, after.read name = store.read name) →
      (names.findSome? fun name =>
        (after.read name).toOption.map fun content => (⟨name, content⟩ : Settings.File)) =
      names.findSome? fun name =>
        (store.read name).toOption.map fun content => ⟨name, content⟩ := by
    intro names hnames
    induction names with
    | nil =>
        rfl
    | cons name rest ih =>
        rw [List.findSome?_cons, List.findSome?_cons, hnames name (by simp),
          ih fun other hother => hnames other (by simp [hother])]
  rw [settingsFile?, settingsFile?, h Job.settingsName (by simp),
    hfind Job.settingsFiles fun name hname => h name (List.mem_cons_of_mem _ hname)]

section Written

variable {inputs : List Path} {after : FileStore}
  (hsources : ∀ p ∈ inputs, Path.isGoSource p = true) (hpackage : ∀ p ∈ package, '/' ∉ p)
  (h : Written (store.documents s package inputs) store after)

include hsources hpackage h

theorem Written.read_of_isName {name : Text} (hname : Path.IsName name) (hplain : '_' ∉ name) :
    after.read name = store.read name := by
  have hplace : after.item? (store.working.follow name) =
      store.item? (store.working.follow name) := by
    apply h.untouched
    intro f hf hl
    rcases mem_documents_iff.mp hf with ⟨input, hinput, es, -, hes, rfl⟩
    rcases exists_location_of_endpointsOf hes with ⟨place, hplace⟩
    rcases locate_document (hsources input hinput) hpackage s.format hplace with
      ⟨d, stem, -, -, hdocument, hdocumentPlace⟩
    have hsame := location_unique rfl hdocumentPlace hl
    have hboth := (Location.follow_inj hdocument hname.not_directory hsame).right
    exact hplain (hboth ▸ Path.underscore_mem_documentName stem s.format.extension package)
  simp only [read, locate_of_isName hname, h.directories.working_eq, hplace]

/-- The settings file stays as it is. -/
theorem Written.settingsFile?_eq : after.settingsFile? = store.settingsFile? := by
  apply settingsFile?_congr
  have hnames : ∀ name ∈ Job.settingsName :: Job.settingsFiles,
      '/' ∉ name ∧ Path.isDirectory name = false ∧ '_' ∉ name := by
    decide
  intro name hname
  rcases hnames name hname with ⟨hslash, hdirectory, hplain⟩
  exact Written.read_of_isName hsources hpackage h ⟨hslash, hdirectory⟩ hplain

theorem Written.documents_eq
    (hread : ∀ input ∈ inputs, ∃ es, store.endpointsOf s.strict input = .ok es) :
    after.documents s package inputs = store.documents s package inputs := by
  apply List.flatMap_congr
  intro input hinput
  rcases hread input hinput with ⟨es, hes⟩
  have hafter := (Written.endpointsOf_source hsources hpackage h (hsources input hinput)
    s.strict es).mpr hes
  rw [hes, hafter]

end Written

/-!
# Files that can be written
-/

theorem getLast?_ne_slash_of_mem_documents {inputs : List Path} {f : Path × Text.Bytes}
    (hsources : ∀ p ∈ inputs, Path.isGoSource p = true) (hpackage : ∀ p ∈ package, '/' ∉ p)
    (hf : f ∈ store.documents s package inputs) : f.1.getLast? ≠ some '/' := by
  rcases mem_documents_iff.mp hf with ⟨input, hinput, es, -, hes, rfl⟩
  rcases Path.exists_names_of_isGoSource (hsources input hinput) hpackage s.format with
    ⟨stem, hfile, -, hdocument, hpath⟩
  rw [hpath]
  exact Path.getLast?_withFileName_ne_slash hfile hdocument

/-- What has been written can be written at the beginning and again. -/
theorem Written.exists_write {files : List (Path × Text.Bytes)} {after cur : FileStore}
    (h : Written files store after) (hcur : SameDirectories store cur) {f : Path × Text.Bytes}
    (hf : f ∈ files) (hslash : f.1.getLast? ≠ some '/') :
    ∃ later, cur.write f.1 f.2 = .ok later := by
  rcases h.exists_location hf with ⟨l, hl, hfree⟩
  refine ⟨_, write_eq_ok_iff.mpr ⟨hslash, l, hcur.locate_eq_ok_iff.mpr hl, ?_, rfl⟩⟩
  rw [ne_eq, hcur.directory_iff l]
  exact hfree

end FileStore

namespace Run

open FileStore

/-!
# Runs that finish
-/

/-- A run over inputs that can all be taken finishes. -/
theorem Documented.finished_of_inputs {store after : FileStore} {s : Settings}
    {package : Option Text} {inputs : List Path} {ending : Ending}
    (h : Documented store s package inputs ending after)
    (hread : ∀ input ∈ inputs, ∃ es, store.endpointsOf s.strict input = .ok es)
    (hwrite : ∀ f ∈ store.documents s package inputs, ∃ later, store.write f.1 f.2 = .ok later) :
    ending = .finished ∧ Written (store.documents s package inputs) store after := by
  cases h with
  | finished _ hwritten =>
      exact ⟨rfl, hwritten⟩
  | @unread before later input failure _ hinputs _ hinput _ _ =>
      rcases hread input (by simp [hinputs]) with ⟨es, hes⟩
      exact absurd hes (hinput es)
  | @unwritten before later input file error _ hinputs _ hfile hnone _ =>
      have hmem : file ∈ store.documents s package inputs := by
        have hsplit : inputs = before ++ ([input] ++ later) := by
          rw [hinputs, List.singleton_append]
        rw [hsplit, documents_append, documents_append, hfile]
        simp
      rcases hwrite file hmem with ⟨store', hstore'⟩
      exact absurd hstore' (hnone store')

/-- The settings of a run that finishes could be loaded, and all its inputs are sources. -/
theorem exists_settings_of_finished (time : Text) {args : List Text} {env : Settings.Environment}
    {store : FileStore} {a : Arguments} (hread : Arguments.read args = .ok a)
    (hexit : (ofCommandLine time args env store).ending.exitCode = 0) :
    ∃ s, Settings.load store.settingsFile? env (Job.overrides a) = .ok s ∧
      ∀ p ∈ a.inputs, Path.isGoSource p = true := by
  have hrun := Job.outcome_ofCommandLine time store args env
  rw [hread] at hrun
  dsimp only at hrun
  cases hload : Settings.load store.settingsFile? env (Job.overrides a) with
  | error error =>
      rw [hload] at hrun
      rw [(outcome_eq_iff.mp hrun).left] at hexit
      cases hexit
  | ok s =>
      rw [hload] at hrun
      dsimp only at hrun
      cases hpath : Path.firstOther? a.inputs with
      | some path =>
          rw [hpath] at hrun
          rw [(outcome_eq_iff.mp hrun).left] at hexit
          cases hexit
      | none =>
          refine ⟨s, rfl, ?_⟩
          intro p hp
          simpa using List.find?_eq_none.mp hpath p hp

/-- What a run that finishes without an output path has read and written. -/
theorem exists_documents_of_finished (time : Text) {args : List Text} {env : Settings.Environment}
    {store : FileStore} {a : Arguments} (hread : Arguments.read args = .ok a)
    (hout : ∀ s, Settings.load store.settingsFile? env (Job.overrides a) = .ok s → s.out = none)
    (hpackage : ∀ p ∈ Job.packageOf env, '/' ∉ p)
    (hexit : (ofCommandLine time args env store).ending.exitCode = 0) :
    ∃ s, Settings.load store.settingsFile? env (Job.overrides a) = .ok s ∧
      (∀ p ∈ a.inputs, Path.isGoSource p = true) ∧
      (∀ input ∈ a.inputs, ∃ es, store.endpointsOf s.strict input = .ok es) ∧
      Written (store.documents s (Job.packageOf env) a.inputs) store
        (ofCommandLine time args env store).store := by
  rcases exists_settings_of_finished time hread hexit with ⟨s, hload, hsources⟩
  have hdocumented := documented_ofCommandLine time hread hload (hout s hload) hsources hpackage
  refine ⟨s, hload, hsources, ?_⟩
  generalize (ofCommandLine time args env store).store = after at hdocumented ⊢
  generalize (ofCommandLine time args env store).ending = ending at hdocumented hexit
  cases hdocumented with
  | finished hall hwritten =>
      exact ⟨hall, hwritten⟩
  | unread =>
      cases hexit
  | unwritten =>
      cases hexit

/-- Inputs in another order, or given more than once, leave the same files. -/
theorem item?_of_same_inputs (time time' : Text) {args args' : List Text}
    {env : Settings.Environment} {store : FileStore} {a a' : Arguments}
    (hread : Arguments.read args = .ok a) (hread' : Arguments.read args' = .ok a')
    (hout : ∀ s, Settings.load store.settingsFile? env (Job.overrides a) = .ok s → s.out = none)
    (hpackage : ∀ p ∈ Job.packageOf env, '/' ∉ p)
    (hexit : (ofCommandLine time args env store).ending.exitCode = 0)
    (hoverrides : Job.overrides a' = Job.overrides a)
    (hinputs : ∀ p, p ∈ a'.inputs ↔ p ∈ a.inputs) :
    (ofCommandLine time' args' env store).ending = .finished ∧
      ∀ l, (ofCommandLine time' args' env store).store.item? l =
        (ofCommandLine time args env store).store.item? l := by
  rcases exists_documents_of_finished time hread hout hpackage hexit with
    ⟨s, hload, hsources, hall, hwritten⟩
  have hnone := hout s hload
  rw [← hoverrides] at hload
  have hdocumented := documented_ofCommandLine time' hread' hload hnone
    (fun p hp => hsources p ((hinputs p).mp hp)) hpackage
  have hsame : ∀ f, f ∈ store.documents s (Job.packageOf env) a'.inputs ↔
      f ∈ store.documents s (Job.packageOf env) a.inputs := by
    intro f
    rw [mem_documents_iff, mem_documents_iff]
    simp only [hinputs]
  have hwrite : ∀ f ∈ store.documents s (Job.packageOf env) a'.inputs,
      ∃ later, store.write f.1 f.2 = .ok later := by
    intro f hf
    have hmem := (hsame f).mp hf
    exact hwritten.exists_write (SameDirectories.refl store) hmem
      (getLast?_ne_slash_of_mem_documents hsources hpackage hmem)
  rcases hdocumented.finished_of_inputs (fun p hp => hall p ((hinputs p).mp hp)) hwrite with
    ⟨hending, hwritten'⟩
  exact ⟨hending, hwritten.item?_congr hwritten' hsame⟩

/-- The same run again changes nothing. -/
theorem item?_of_same_run (time time' : Text) {args : List Text} {env : Settings.Environment}
    {store : FileStore} {a : Arguments} (hread : Arguments.read args = .ok a)
    (hout : ∀ s, Settings.load store.settingsFile? env (Job.overrides a) = .ok s → s.out = none)
    (hpackage : ∀ p ∈ Job.packageOf env, '/' ∉ p)
    (hexit : (ofCommandLine time args env store).ending.exitCode = 0) :
    (ofCommandLine time' args env (ofCommandLine time args env store).store).ending = .finished ∧
      ∀ l, (ofCommandLine time' args env (ofCommandLine time args env store).store).store.item? l =
        (ofCommandLine time args env store).store.item? l := by
  rcases exists_documents_of_finished time hread hout hpackage hexit with
    ⟨s, hload, hsources, hall, hwritten⟩
  have hnone := hout s hload
  generalize (ofCommandLine time args env store).store = after at hwritten ⊢
  rw [← Written.settingsFile?_eq hsources hpackage hwritten] at hload
  have hdocumented := documented_ofCommandLine time' hread hload hnone hsources hpackage
  have hsame := Written.documents_eq hsources hpackage hwritten hall
  have hallAfter : ∀ input ∈ a.inputs, ∃ es, after.endpointsOf s.strict input = .ok es := by
    intro input hinput
    rcases hall input hinput with ⟨es, hes⟩
    exact ⟨es, (Written.endpointsOf_source hsources hpackage hwritten (hsources input hinput)
      s.strict es).mpr hes⟩
  have hwrite : ∀ f ∈ after.documents s (Job.packageOf env) a.inputs,
      ∃ later, after.write f.1 f.2 = .ok later := by
    intro f hf
    rw [hsame] at hf
    exact hwritten.exists_write hwritten.directories hf
      (getLast?_ne_slash_of_mem_documents hsources hpackage hf)
  rcases hdocumented.finished_of_inputs hallAfter hwrite with ⟨hending, hagain⟩
  rw [hsame] at hagain
  exact ⟨hending, hwritten.item?_again hagain⟩

/-- If a run without an output path finishes, neither the order of its inputs counts nor how often
one is given, and the same run can be taken again without changing a file. -/
theorem order_and_repetition (time : Text) {args : List Text} {env : Settings.Environment}
    {store : FileStore}
    (hout : ∀ a s, Arguments.read args = .ok a →
      Settings.load store.settingsFile? env (Job.overrides a) = .ok s → s.out = none)
    (hpackage : ∀ p ∈ Job.packageOf env, '/' ∉ p)
    (hexit : (ofCommandLine time args env store).ending.exitCode = 0) :
    (∀ time' args' a a', Arguments.read args = .ok a → Arguments.read args' = .ok a' →
      Job.overrides a' = Job.overrides a → (∀ p, p ∈ a'.inputs ↔ p ∈ a.inputs) →
      (ofCommandLine time' args' env store).ending.exitCode = 0 ∧
        ∀ l, (ofCommandLine time' args' env store).store.item? l =
          (ofCommandLine time args env store).store.item? l) ∧
    ∀ time',
      (ofCommandLine time' args env (ofCommandLine time args env store).store).ending.exitCode = 0 ∧
        ∀ l,
          (ofCommandLine time' args env (ofCommandLine time args env store).store).store.item? l =
            (ofCommandLine time args env store).store.item? l := by
  constructor
  · intro time' args' a a' hread hread' hoverrides hinputs
    rcases item?_of_same_inputs time time' hread hread' (fun s => hout a s hread) hpackage hexit
      hoverrides hinputs with ⟨hending, hitem⟩
    rw [hending]
    exact ⟨rfl, hitem⟩
  · intro time'
    cases hread : Arguments.read args with
    | error error =>
        -- Only help that is asked for ends such a run without a failure, and it reads nothing.
        have hrefused : ∀ t s, (ofCommandLine t args env s).ending = .refused error ∧
            (ofCommandLine t args env s).store = s := by
          intro t s
          rw [← outcome_eq_iff, Job.outcome_ofCommandLine, hread]
        rcases hrefused time' (ofCommandLine time args env store).store with ⟨hagain, hstore⟩
        rw [(hrefused time store).left] at hexit
        rw [hagain, hstore]
        exact ⟨hexit, fun _ => rfl⟩
    | ok a =>
        rcases item?_of_same_run time time' hread (fun s => hout a s hread) hpackage hexit with
          ⟨hending, hitem⟩
        rw [hending]
        exact ⟨rfl, hitem⟩

/-- The inputs of `itemsAndMain` in another order, one of them given twice. -/
def mainAndItems : List Text :=
  ["../shop/items.go".toList, "main.go".toList, "/shop/items.go".toList, "main.go".toList]

theorem order_and_repetition_mainAndItems :
    (∀ a s, Arguments.read itemsAndMain = .ok a →
      Settings.load FileStore.items.settingsFile? shopPackage (Job.overrides a) = .ok s →
        s.out = none) ∧
    ((ofCommandLine [] mainAndItems shopPackage FileStore.items).ending.exitCode = 0 ∧
      ∀ l, (ofCommandLine [] mainAndItems shopPackage FileStore.items).store.item? l =
        (ofCommandLine [] itemsAndMain shopPackage FileStore.items).store.item? l) ∧
    (ofCommandLine [] itemsAndMain shopPackage
        (ofCommandLine [] itemsAndMain shopPackage FileStore.items).store).ending.exitCode = 0 ∧
      ∀ l, (ofCommandLine [] itemsAndMain shopPackage
          (ofCommandLine [] itemsAndMain shopPackage FileStore.items).store).store.item? l =
        (ofCommandLine [] itemsAndMain shopPackage FileStore.items).store.item? l := by
  have hread : Arguments.read mainAndItems = .ok ⟨none, none, none, mainAndItems⟩ := by
    decide +kernel
  have hout : ∀ a s, Arguments.read itemsAndMain = .ok a →
      Settings.load FileStore.items.settingsFile? shopPackage (Job.overrides a) = .ok s →
        s.out = none := by
    intro a s ha hs
    rw [read_itemsAndMain] at ha
    cases ha
    rw [Job.overrides, load_items] at hs
    cases hs
    rfl
  have hexit : (ofCommandLine [] itemsAndMain shopPackage FileStore.items).ending.exitCode = 0 := by
    rw [ending_itemsAndMain]
    rfl
  have hinputs : ∀ p, p ∈ mainAndItems ↔ p ∈ itemsAndMain := by
    have hboth : mainAndItems ⊆ itemsAndMain ∧ itemsAndMain ⊆ mainAndItems := by
      decide
    exact fun p => ⟨fun hp => hboth.left hp, fun hp => hboth.right hp⟩
  rcases order_and_repetition [] hout slash_not_mem_shopPackage hexit with ⟨hothers, hagain⟩
  exact ⟨hout, hothers [] mainAndItems _ _ read_itemsAndMain hread rfl hinputs, hagain []⟩

end Run
end EndpointDocs
