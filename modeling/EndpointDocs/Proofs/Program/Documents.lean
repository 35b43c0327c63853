import EndpointDocs.Proofs.Program.Change
import EndpointDocs.Proofs.Program.Inputs

/-!
# Runs without an output path

Without an output path every input with an endpoint gets a document of its own, and inputs are read
while documents about earlier ones are being written.  A document never stands where an input does,
and two documents at one place are about the same content, so each document is about what its input
held before the run.
-/

namespace EndpointDocs

open Text (Bytes)

namespace FileStore

/-- The documents about inputs, by what a store has at their paths: one for each input with an
endpoint. -/
def documents (store : FileStore) (s : Settings) (package : Option Text) (inputs : List Path) :
    List (Path × Bytes) :=
  inputs.flatMap fun input =>
    match store.endpointsOf s.strict input with
    | .error _ => []
    | .ok [] => []
    | .ok (e :: es) =>
        [(Path.document input s.format.extension package,
          Text.encode (s.format.document (e :: es)))]

variable {store : FileStore} {s : Settings} {package : Option Text}

theorem documents_append (inputs others : List Path) :
    store.documents s package (inputs ++ others) =
      store.documents s package inputs ++ store.documents s package others :=
  List.flatMap_append

theorem documents_of_empty {input : Path} (h : store.endpointsOf s.strict input = .ok []) :
    store.documents s package [input] = [] := by
  rw [documents, List.flatMap_singleton, h]

theorem documents_of_endpoints {input : Path} {es : List Endpoint} (hne : es ≠ [])
    (h : store.endpointsOf s.strict input = .ok es) :
    store.documents s package [input] =
      [(Path.document input s.format.extension package,
        Text.encode (s.format.document es))] := by
  rw [documents, List.flatMap_singleton, h]
  cases es with
  | nil =>
      exact absurd rfl hne
  | cons e rest =>
      rfl

theorem mem_documents_iff {inputs : List Path} {f : Path × Bytes} :
    f ∈ store.documents s package inputs ↔
      ∃ input ∈ inputs, ∃ es, es ≠ [] ∧ store.endpointsOf s.strict input = .ok es ∧
        f = (Path.document input s.format.extension package,
          Text.encode (s.format.document es)) := by
  rw [documents, List.mem_flatMap]
  constructor
  · rintro ⟨input, hinput, hf⟩
    refine ⟨input, hinput, ?_⟩
    cases hes : store.endpointsOf s.strict input with
    | error failure =>
        simp [hes] at hf
    | ok es =>
        cases es with
        | nil =>
            simp [hes] at hf
        | cons e rest =>
            refine ⟨e :: rest, by simp, rfl, ?_⟩
            simpa [hes] using hf
  · rintro ⟨input, hinput, es, hne, hes, rfl⟩
    refine ⟨input, hinput, ?_⟩
    have hdocument : store.documents s package [input] = _ := documents_of_endpoints hne hes
    rw [documents, List.flatMap_singleton] at hdocument
    rw [hdocument]
    exact List.mem_singleton_self _

/-!
# Places of inputs and of documents
-/

theorem exists_location_of_endpointsOf {strict : Bool} {input : Path} {es : List Endpoint}
    (h : store.endpointsOf strict input = .ok es) : ∃ l, store.locate input = .ok l := by
  rcases endpointsOf_eq_ok_iff.mp h with ⟨content, -, hread, -⟩
  rcases read_eq_ok_iff.mp hread with ⟨l, hl, -⟩
  exact ⟨l, hl⟩

/-- The document about an input stands in the directory of the input. -/
theorem locate_document {input : Path} (hsource : Path.isGoSource input = true)
    (hpackage : ∀ p ∈ package, '/' ∉ p) (format : Format) {l : Location}
    (hl : store.locate input = .ok l) :
    ∃ (d : Location) (stem : Text), l = d.follow (stem ++ ".go".toList) ∧
      Path.isDirectory (stem ++ ".go".toList) = false ∧
      Path.isDirectory (Path.documentName stem format.extension package) = false ∧
      store.locate (Path.document input format.extension package) =
        .ok (d.follow (Path.documentName stem format.extension package)) := by
  rcases Path.exists_names_of_isGoSource hsource hpackage format with
    ⟨stem, hfile, hname, hdocument, hpath⟩
  rcases exists_directory_of_locate hfile hl with ⟨d, hd, hothers⟩
  refine ⟨d, stem, hd, hname.not_directory, hdocument.not_directory, ?_⟩
  rw [hpath]
  exact hothers _ hdocument

/-- No document stands at the place of an input. -/
theorem location_document_ne {input other : Path} {l l' : Location} (format : Format)
    (hsource : Path.isGoSource input = true) (hother : Path.isGoSource other = true)
    (hpackage : ∀ p ∈ package, '/' ∉ p) {place : Location} (hplace : store.locate input = .ok place)
    (hl : store.locate (Path.document input format.extension package) = .ok l)
    (hl' : store.locate other = .ok l') : l ≠ l' := by
  rcases locate_document hsource hpackage format hplace with ⟨d, stem, -, -, hname, hdocument⟩
  rcases locate_document hother hpackage format hl' with ⟨d', stem', hd', hname', -, -⟩
  intro heq
  rw [location_unique rfl hl hdocument, hd'] at heq
  exact Path.documentName_ne_source _ _ _ _ (Location.follow_inj hname hname' heq).right

/-- Inputs whose documents stand at one place stand at one place themselves. -/
theorem location_source_unique {input other : Path} {l place place' : Location} (format : Format)
    (hsource : Path.isGoSource input = true) (hother : Path.isGoSource other = true)
    (hpackage : ∀ p ∈ package, '/' ∉ p)
    (hplace : store.locate input = .ok place) (hplace' : store.locate other = .ok place')
    (hl : store.locate (Path.document input format.extension package) = .ok l)
    (hl' : store.locate (Path.document other format.extension package) = .ok l) :
    place = place' := by
  rcases locate_document hsource hpackage format hplace with ⟨d, stem, hd, -, hname, hdocument⟩
  rcases locate_document hother hpackage format hplace' with ⟨d', stem', hd', -, hname', hdocument'⟩
  have hsame := (location_unique rfl hl hdocument).symm.trans (location_unique rfl hl' hdocument')
  rcases Location.follow_inj hname hname' hsame with ⟨hdirectory, hstem⟩
  rw [hd, hd', hdirectory, Path.documentName_inj hstem]

theorem endpoints_unique {input other : Path} {es es' : List Endpoint} {l : Location}
    (hsource : Path.isGoSource input = true) (hother : Path.isGoSource other = true)
    (hpackage : ∀ p ∈ package, '/' ∉ p) (hes : store.endpointsOf s.strict input = .ok es)
    (hes' : store.endpointsOf s.strict other = .ok es')
    (hl : store.locate (Path.document input s.format.extension package) = .ok l)
    (hl' : store.locate (Path.document other s.format.extension package) = .ok l) : es = es' := by
  rcases exists_location_of_endpointsOf hes with ⟨place, hplace⟩
  rcases exists_location_of_endpointsOf hes' with ⟨place', hplace'⟩
  have hsame := location_source_unique s.format hsource hother hpackage hplace hplace' hl hl'
  have hread : ∀ content, store.read other = .ok content ↔ store.read input = .ok content := by
    intro content
    rw [read_eq_ok_iff, read_eq_ok_iff, hplace, hplace', hsame]
  have hboth := (endpointsOf_congr hread es).mpr hes
  rw [hes'] at hboth
  injection hboth with heq
  exact heq.symm

/-!
# Reading inputs while documents are being written
-/

section Reading

variable {inputs : List Path} {cur : FileStore}
  (hsources : ∀ p ∈ inputs, Path.isGoSource p = true) (hpackage : ∀ p ∈ package, '/' ∉ p)
  (h : Written (store.documents s package inputs) store cur)

include hsources hpackage h

theorem Written.read_source {input : Path} (hsource : Path.isGoSource input = true)
    (content : Bytes) : cur.read input = .ok content ↔ store.read input = .ok content := by
  rw [read_eq_ok_iff, read_eq_ok_iff]
  refine exists_congr fun l => ?_
  rw [h.directories.locate_eq_ok_iff]
  refine and_congr_right fun hl => ?_
  rw [h.untouched l]
  intro f hf hdocument
  rcases mem_documents_iff.mp hf with ⟨other, hother, es, -, hes, rfl⟩
  rcases exists_location_of_endpointsOf hes with ⟨place, hplace⟩
  exact location_document_ne s.format (hsources other hother) hsource hpackage hplace hdocument hl
    rfl

theorem Written.endpointsOf_source {input : Path} (hsource : Path.isGoSource input = true)
    (strict : Bool) (es : List Endpoint) :
    cur.endpointsOf strict input = .ok es ↔ store.endpointsOf strict input = .ok es :=
  endpointsOf_congr (Written.read_source hsources hpackage h hsource) es

/-- What one more document changes. -/
theorem Written.document {later : FileStore} {input : Path} {es : List Endpoint} (hne : es ≠ [])
    (hsource : Path.isGoSource input = true) (hes : store.endpointsOf s.strict input = .ok es)
    (hwrite : cur.write (Path.document input s.format.extension package)
      (Text.encode (s.format.document es)) = .ok later) :
    Written (store.documents s package (inputs ++ [input])) store later := by
  rw [documents_append, documents_of_endpoints hne hes]
  apply h.write hwrite
  intro f hf l hl hl'
  rcases mem_documents_iff.mp hf with ⟨other, hother, es', -, hes', rfl⟩
  rw [endpoints_unique (hsources other hother) hsource hpackage hes' hes hl hl']

/-- An input without an endpoint leaves no document. -/
theorem Written.untouched_of_empty {input : Path} (hsource : Path.isGoSource input = true)
    (hempty : store.endpointsOf s.strict input = .ok []) {l : Location}
    (hl : store.locate (Path.document input s.format.extension package) = .ok l) :
    cur.item? l = store.item? l := by
  apply h.untouched l
  intro f hf hplace
  rcases mem_documents_iff.mp hf with ⟨other, hother, es, hne, hes, rfl⟩
  exact hne (endpoints_unique (hsources other hother) hsource hpackage hes hempty hplace hl)

end Reading

end FileStore

namespace Run

open FileStore

/-!
# Input by input
-/

/-- How a run over inputs ends, and the store that it leaves: with the documents about all inputs,
or about those before the first one that it cannot take. -/
inductive Documented (store : FileStore) (s : Settings) (package : Option Text)
    (inputs : List Path) : Ending → FileStore → Prop where
  | finished {after : FileStore}
      (hread : ∀ input ∈ inputs, ∃ es, store.endpointsOf s.strict input = .ok es)
      (hwritten : Written (store.documents s package inputs) store after) :
      Documented store s package inputs .finished after
  | unread {before later : List Path} {input : Path} {failure : Failure} {after : FileStore}
      (hinputs : inputs = before ++ input :: later)
      (hread : ∀ p ∈ before, ∃ es, store.endpointsOf s.strict p = .ok es)
      (hinput : ∀ es, store.endpointsOf s.strict input ≠ .ok es)
      (hfailure : after.endpointsOf s.strict input = .error failure)
      (hwritten : Written (store.documents s package before) store after) :
      Documented store s package inputs (.failed failure) after
  | unwritten {before later : List Path} {input : Path} {file : Path × Bytes} {error : FileError}
      {after : FileStore}
      (hinputs : inputs = before ++ input :: later)
      (hread : ∀ p ∈ before ++ [input], ∃ es, store.endpointsOf s.strict p = .ok es)
      (hfile : store.documents s package [input] = [file])
      (hbefore : ∀ store', store.write file.1 file.2 ≠ .ok store')
      (hwritten : Written (store.documents s package before) store after) :
      Documented store s package inputs (.failed (.unwritable file.1 error)) after

/-- From a store with the documents about the inputs so far, a run goes on to one of its ends. -/
theorem documented_of_rest (time : Text) {store cur : FileStore} {s : Settings}
    {package : Option Text} {inputs done rest : List Path} (hout : s.out = none)
    (hsources : ∀ p ∈ inputs, Path.isGoSource p = true) (hpackage : ∀ p ∈ package, '/' ∉ p)
    (hinputs : inputs = done ++ rest)
    (hread : ∀ input ∈ done, ∃ es, store.endpointsOf s.strict input = .ok es)
    (hwritten : Written (store.documents s package done) store cur) (gathered : List Endpoint) :
    Documented store s package inputs
      ((Job.documentInputs s package gathered rest).run time cur).outcome.1
      ((Job.documentInputs s package gathered rest).run time cur).outcome.2 := by
  induction rest generalizing done cur with
  | nil =>
      rw [List.append_nil] at hinputs
      rw [Job.documentInputs, Job.conclude, hout]
      rw [← hinputs] at hread hwritten
      exact .finished hread hwritten
  | cons input later ih =>
      have hdone : ∀ p ∈ done, Path.isGoSource p = true := fun p hp =>
        hsources p (by simp [hinputs, hp])
      have hsource : Path.isGoSource input = true := hsources input (by simp [hinputs])
      have hsame := Written.endpointsOf_source hdone hpackage hwritten hsource s.strict
      have hnext : inputs = (done ++ [input]) ++ later := by
        simp [hinputs]
      rw [Job.documentInputs, Job.outcome_run_input, hout]
      cases hcur : cur.endpointsOf s.strict input with
      | error failure =>
          refine .unread hinputs hread ?_ hcur hwritten
          intro es hes
          rw [(hsame es).mpr hes] at hcur
          cases hcur
      | ok es =>
          have hes : store.endpointsOf s.strict input = .ok es := (hsame es).mp hcur
          have hreadNext : ∀ p ∈ done ++ [input],
              ∃ es, store.endpointsOf s.strict p = .ok es := by
            intro p hp
            rcases List.mem_append.mp hp with hold | hnew
            · exact hread p hold
            · rw [List.mem_singleton.mp hnew]
              exact ⟨es, hes⟩
          by_cases hempty : es = []
          · subst hempty
            apply ih hnext hreadNext
            rw [documents_append, documents_of_empty hes, List.append_nil]
            exact hwritten
          · dsimp only
            rw [if_neg (by simp [hempty]), Job.outcome_run_writeDocument]
            cases hwrite : cur.write (Path.document input s.format.extension package)
              (Text.encode (s.format.document es)) with
            | error error =>
                refine .unwritten hinputs hreadNext (documents_of_endpoints hempty hes) ?_ hwritten
                intro store' hstore'
                rcases hwritten.directories.exists_write_iff.mpr ⟨store', hstore'⟩ with
                  ⟨cur', hcur'⟩
                rw [hwrite] at hcur'
                cases hcur'
            | ok cur' =>
                exact ih hnext hreadNext
                  (Written.document hdone hpackage hwritten hempty hsource hes hwrite)

/-- The run of a command line that names no output path. -/
theorem documented_ofCommandLine (time : Text) {args : List Text} {env : Settings.Environment}
    {store : FileStore} {a : Arguments} {s : Settings} (hread : Arguments.read args = .ok a)
    (hload : Settings.load store.settingsFile? env (Job.overrides a) = .ok s)
    (hout : s.out = none) (hsources : ∀ p ∈ a.inputs, Path.isGoSource p = true)
    (hpackage : ∀ p ∈ Job.packageOf env, '/' ∉ p) :
    Documented store s (Job.packageOf env) a.inputs (ofCommandLine time args env store).ending
      (ofCommandLine time args env store).store := by
  have hrun := Job.outcome_ofCommandLine_of_sources time store hread hload hsources
  have hdocumented := documented_of_rest time hout hsources hpackage (List.nil_append _).symm
    (by simp) (Written.refl store) []
  rw [← hrun] at hdocumented
  exact hdocumented

/-- Without an output path a run leaves the documents about what its inputs held before it, each at
its own place and nothing else.  If it fails with an input, they are those about the inputs before
that one. -/
theorem leaves_documents (time : Text) {args : List Text} {env : Settings.Environment}
    {store : FileStore} {a : Arguments} {s : Settings} (hread : Arguments.read args = .ok a)
    (hload : Settings.load store.settingsFile? env (Job.overrides a) = .ok s)
    (hout : s.out = none) (hsources : ∀ p ∈ a.inputs, Path.isGoSource p = true)
    (hpackage : ∀ p ∈ Job.packageOf env, '/' ∉ p) :
    ((ofCommandLine time args env store).ending = .finished ∧
      (∀ input ∈ a.inputs, ∃ es, store.endpointsOf s.strict input = .ok es) ∧
      Written (store.documents s (Job.packageOf env) a.inputs) store
        (ofCommandLine time args env store).store ∧
      ∀ input ∈ a.inputs, store.endpointsOf s.strict input = .ok [] →
        ∀ l, store.locate (Path.document input s.format.extension (Job.packageOf env)) = .ok l →
          (ofCommandLine time args env store).store.item? l = store.item? l) ∨
    ∃ failure before input later,
      (ofCommandLine time args env store).ending = .failed failure ∧
      a.inputs = before ++ input :: later ∧
      (∀ p ∈ before, ∃ es, store.endpointsOf s.strict p = .ok es) ∧
      Written (store.documents s (Job.packageOf env) before) store
        (ofCommandLine time args env store).store ∧
      (((∀ es, store.endpointsOf s.strict input ≠ .ok es) ∧
          (ofCommandLine time args env store).store.endpointsOf s.strict input = .error failure) ∨
        ∃ file error, store.documents s (Job.packageOf env) [input] = [file] ∧
          (∀ store', store.write file.1 file.2 ≠ .ok store') ∧
          failure = .unwritable file.1 error) := by
  have hdocumented := documented_ofCommandLine time hread hload hout hsources hpackage
  generalize (ofCommandLine time args env store).store = after at hdocumented ⊢
  generalize (ofCommandLine time args env store).ending = ending at hdocumented ⊢
  cases hdocumented with
  | finished hall hwritten =>
      refine Or.inl ⟨rfl, hall, hwritten, ?_⟩
      intro input hinput hempty l hl
      exact Written.untouched_of_empty hsources hpackage hwritten (hsources input hinput) hempty hl
  | @unread before later input failure _ hinputs hbefore hinput hfailure hwritten =>
      exact Or.inr ⟨failure, before, input, later, rfl, hinputs, hbefore, hwritten,
        Or.inl ⟨hinput, hfailure⟩⟩
  | @unwritten before later input file error _ hinputs hbefore hfile hnone hwritten =>
      have hold : ∀ p ∈ before, ∃ es, store.endpointsOf s.strict p = .ok es := fun p hp =>
        hbefore p (List.mem_append_left _ hp)
      exact Or.inr ⟨.unwritable file.1 error, before, input, later, rfl, hinputs, hold, hwritten,
        Or.inr ⟨file, error, hfile, hnone, rfl⟩⟩

/-- Two paths to one source, and a source without an endpoint between them. -/
def itemsAndMain : List Text :=
  ["/shop/items.go".toList, "main.go".toList, "../shop/items.go".toList]

/-- A source, a file that is no text, and another source. -/
def photoAmongItems : List Text :=
  ["/shop/items.go".toList, "photo.go".toList, "main.go".toList]

def shopPackage : Settings.Environment :=
  [("GOPACKAGE".toList, "shop".toList)]

theorem read_itemsAndMain :
    Arguments.read itemsAndMain = .ok ⟨none, none, none, itemsAndMain⟩ := by
  decide +kernel

theorem load_items :
    Settings.load FileStore.items.settingsFile? shopPackage ⟨none, none, none⟩ =
      .ok ⟨false, .markdown, none⟩ := by
  decide +kernel

theorem slash_not_mem_shopPackage : ∀ p ∈ Job.packageOf shopPackage, '/' ∉ p := by
  decide

theorem ending_itemsAndMain :
    (ofCommandLine [] itemsAndMain shopPackage FileStore.items).ending = .finished := by
  decide +kernel

theorem leaves_documents_items :
    ((∀ p ∈ itemsAndMain, Path.isGoSource p = true) ∧
      (ofCommandLine [] itemsAndMain shopPackage FileStore.items).ending = .finished ∧
      Written [("/shop/shop_items_apidoc.md".toList, Text.encode itemDocument),
          ("../shop/shop_items_apidoc.md".toList, Text.encode itemDocument)] FileStore.items
        (ofCommandLine [] itemsAndMain shopPackage FileStore.items).store) ∧
    (∀ p ∈ photoAmongItems, Path.isGoSource p = true) ∧
      (ofCommandLine [] photoAmongItems shopPackage FileStore.items).ending =
        .failed (.unreadable "photo.go".toList .notUtf8) ∧
      Written [("/shop/shop_items_apidoc.md".toList, Text.encode itemDocument)] FileStore.items
        (ofCommandLine [] photoAmongItems shopPackage FileStore.items).store := by
  have hsources : ∀ inputs ∈ [itemsAndMain, photoAmongItems],
      ∀ p ∈ inputs, Path.isGoSource p = true := by
    decide
  have hread : Arguments.read photoAmongItems = .ok ⟨none, none, none, photoAmongItems⟩ := by
    decide +kernel
  have hfailed : (ofCommandLine [] photoAmongItems shopPackage FileStore.items).ending =
      .failed (.unreadable "photo.go".toList .notUtf8) := by
    decide +kernel
  have hitems : FileStore.items.documents ⟨false, .markdown, none⟩ (Job.packageOf shopPackage)
      itemsAndMain = [("/shop/shop_items_apidoc.md".toList, Text.encode itemDocument),
        ("../shop/shop_items_apidoc.md".toList, Text.encode itemDocument)] := by
    decide +kernel
  have hitem : FileStore.items.documents ⟨false, .markdown, none⟩ (Job.packageOf shopPackage)
      ["/shop/items.go".toList] =
        [("/shop/shop_items_apidoc.md".toList, Text.encode itemDocument)] := by
    decide +kernel
  have hgood : ∃ es, FileStore.items.endpointsOf false "/shop/items.go".toList = .ok es := by
    rcases mem_documents_iff.mp (hitem ▸ List.mem_singleton_self _) with
      ⟨input, hinput, es, -, hes, -⟩
    rw [List.mem_singleton.mp hinput] at hes
    exact ⟨es, hes⟩
  have hphoto : FileStore.items.endpointsOf false "photo.go".toList =
      .error (.unreadable "photo.go".toList .notUtf8) := by
    decide +kernel
  refine ⟨⟨hsources _ (by simp), ending_itemsAndMain, ?_⟩, hsources _ (by simp), hfailed, ?_⟩
  · rcases leaves_documents [] read_itemsAndMain load_items rfl (hsources _ (by simp))
        slash_not_mem_shopPackage with
      ⟨-, -, hwritten, -⟩ | ⟨failure, before, input, later, hother, -⟩
    · rwa [hitems] at hwritten
    · rw [ending_itemsAndMain] at hother
      cases hother
  · rcases leaves_documents [] hread load_items rfl (hsources _ (by simp))
        slash_not_mem_shopPackage with
      ⟨hother, -⟩ | ⟨failure, before, input, later, hother, hsplit, hbefore, hwritten, hinput⟩
    · rw [hfailed] at hother
      cases hother
    · rw [hfailed] at hother
      injection hother with hfailure
      subst hfailure
      -- The run fails with the photo, since the source before it can be read.
      cases before with
      | nil =>
          injection hsplit with hfirst
          rcases hinput with ⟨hnone, -⟩ | ⟨file, error, -, -, hunwritable⟩
          · rcases hgood with ⟨es, hes⟩
            exact absurd hes (hfirst ▸ hnone es)
          · cases hunwritable
      | cons first rest =>
          injection hsplit with hfirst hrest
          cases rest with
          | nil =>
              rwa [← hfirst, hitem] at hwritten
          | cons second others =>
              injection hrest with hsecond
              rcases hbefore second (by simp) with ⟨es, hes⟩
              rw [← hsecond, hphoto] at hes
              cases hes

end Run
end EndpointDocs
