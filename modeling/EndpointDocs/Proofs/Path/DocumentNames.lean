import EndpointDocs.Program.Job
import EndpointDocs.Proofs.Path.Document

/-!
# Names of documents

The document about an input stands in the directory of the input.  Its name has the extension of
the format, so it is neither an input nor a settings file, and it gives the stem of the input back,
so inputs with different paths have documents with different paths.

## Comparing paths

What a path says is told by its pieces: whether it begins at the root and which pieces count.  Two
paths to files say the same if the pieces that lead to the directories do and the files have one
name.
-/

namespace EndpointDocs
namespace Path

/-!
# Pieces that count
-/

/-- What the pieces of a path say: whether it begins at the root, and which pieces count. -/
def counted : List Text → Bool × List Text
  | [] => (false, [])
  | start :: pieces =>
      (start.isEmpty, (if start.isEmpty then [] else [start]) ++
        pieces.filter fun piece => !isTrivial piece)

theorem counted_cons (start : Text) (pieces : List Text) :
    counted (start :: pieces) =
      (start.isEmpty, (if start.isEmpty then [] else [start]) ++
        pieces.filter fun piece => !isTrivial piece) := rfl

theorem filter_of_isTrivial {pieces : List Text} (h : ∀ p ∈ pieces, isTrivial p = true) :
    pieces.filter (fun piece => !isTrivial piece) = [] := by
  rw [List.filter_eq_nil_iff]
  intro p hp
  simp [h p hp]

theorem components_eq_counted {path : Path} (h : path ≠ []) :
    components path = counted (List.splitOn '/' path) := by
  rcases exists_later_append path with ⟨after, hpieces, hafter⟩
  rw [components, isAbsolute_eq_isEmpty_first h, hpieces, counted_cons, List.filter_append,
    filter_of_isTrivial hafter, List.append_nil]

theorem counted_append {front : List Text} (h : front ≠ []) (back : List Text) :
    counted (front ++ back) =
      ((counted front).1, (counted front).2 ++ back.filter fun piece => !isTrivial piece) := by
  cases front with
  | nil =>
      exact absurd rfl h
  | cons start pieces =>
      rw [List.cons_append, counted_cons, counted_cons, List.filter_append, List.append_assoc]

theorem IsName.isTrivial_eq_false {name : Text} (h : IsName name) : isTrivial name = false := by
  have hdirectory := h.not_directory
  rw [isDirectory, Bool.or_eq_false_iff] at hdirectory
  exact hdirectory.left

/-- What a path to a file says is what the pieces before the file say, and the name of the file. -/
theorem components_of_fileName? {path : Path} {file : Text} (h : fileName? path = some file) :
    components path = ((counted (leading path)).1, (counted (leading path)).2 ++ [file]) := by
  have hfile := isName_of_fileName? h
  rcases exists_pieces h with ⟨skipped, after, hpieces, hskipped, hafter, hnone⟩
  rw [components_eq_counted (ne_nil_of_fileName? h), hpieces]
  cases hleading : leading path with
  | nil =>
      have hne : file.isEmpty = false := List.isEmpty_eq_false_iff.mpr hfile.ne_nil
      rw [hnone hleading, List.nil_append, List.nil_append, counted_cons, hne,
        filter_of_isTrivial hafter]
      rfl
  | cons start pieces =>
      have hkept : (skipped ++ file :: after).filter (fun piece => !isTrivial piece) = [file] := by
        rw [List.filter_append, List.filter_cons_of_pos (by simp [hfile.isTrivial_eq_false]),
          filter_of_isTrivial hskipped, filter_of_isTrivial hafter, List.nil_append]
      rw [counted_append (by simp), hkept]

/-!
# The file with another name
-/

theorem file_of_pieces {path : Path} {front : List Text} {name : Text}
    (h : List.splitOn '/' path = front ++ [name]) (hname : IsName name)
    (hfront : ∀ start pieces, front = start :: pieces →
      ∀ p ∈ pieces.getLast?, isTrivial p = false) :
    fileName? path = some name ∧ leading path = front := by
  cases front with
  | nil =>
      have hfirst : first path = name := by
        rw [first, h]
        rfl
      have hlater : later path = [] := by
        rw [later, h]
        rfl
      constructor
      · rw [fileName?, hlater, hfirst]
        exact if_neg (by simp [hname.not_directory])
      · rw [leading, hlater]
        rfl
  | cons start pieces =>
      have hfirst : first path = start := by
        rw [first, h]
        rfl
      have hlater : later path = pieces ++ [name] := by
        rw [later, h, List.cons_append, List.tail_cons,
          Text.dropEndWhile_append_cons hname.isTrivial_eq_false, Text.dropEndWhile_nil]
      constructor
      · rw [fileName?, hlater, List.getLast?_concat]
        exact if_neg (by simp [hname.not_directory])
      · rw [leading, hlater, hfirst, if_neg (by simp), List.dropLast_concat,
          Text.dropEndWhile_eq_self (hfront start pieces rfl)]

theorem file_withFileName {path : Path} {file name : Text} (h : fileName? path = some file)
    (hname : IsName name) :
    fileName? (withFileName path name) = some name ∧
      leading (withFileName path name) = leading path :=
  file_of_pieces (pieces_withFileName h hname) hname fun _ _ hleading =>
    isTrivial_getLast_leading hleading

theorem directory_withFileName {path : Path} {file name : Text} (h : fileName? path = some file)
    (hname : IsName name) : directory (withFileName path name) = directory path := by
  rcases file_withFileName h hname with ⟨hnew, hleading⟩
  rw [directory_eq hnew, directory_eq h, hleading]

theorem components_withFileName {path : Path} {file name : Text} (h : fileName? path = some file)
    (hname : IsName name) :
    components (withFileName path name) =
      ((counted (leading path)).1, (counted (leading path)).2 ++ [name]) := by
  rcases file_withFileName h hname with ⟨hnew, hleading⟩
  rw [components_of_fileName? hnew, hleading]

/-!
# The names of documents
-/

theorem splitName_append {stem extension : Text} (hstem : stem ≠ []) (hdot : '.' ∉ extension) :
    splitName (stem ++ '.' :: extension) = (stem, some extension) := by
  have hkept : ∀ c ∈ extension.reverse, (c != '.') = true := by
    intro c hc
    rw [bne_iff_ne]
    intro heq
    rw [heq, List.mem_reverse] at hc
    exact hdot hc
  have hreverse : (stem ++ '.' :: extension).reverse = extension.reverse ++ '.' :: stem.reverse := by
    simp
  rw [splitName, hreverse, List.takeWhile_append_of_pos hkept, List.dropWhile_append_of_pos hkept,
    List.takeWhile_cons_of_neg (by simp), List.dropWhile_cons_of_neg (by simp), List.append_nil,
    List.reverse_reverse, List.reverse_cons, List.reverse_reverse, List.dropLast_concat]
  cases stem with
  | nil =>
      exact absurd rfl hstem
  | cons c rest =>
      rfl

theorem splitName_documentName (stem : Text) (format : Format) (package : Option Text) :
    ∃ front, splitName (documentName stem format.extension package) =
      (front, some format.extension) := by
  have hdot : '.' ∉ format.extension := by
    cases format <;> decide
  cases package with
  | none =>
      refine ⟨stem ++ "_apidoc".toList, ?_⟩
      rw [← splitName_append (by simp) hdot]
      simp [documentName]
  | some p =>
      refine ⟨p ++ '_' :: (stem ++ "_apidoc".toList), ?_⟩
      rw [← splitName_append (by simp) hdot]
      simp [documentName]

theorem extension?_of_fileName? {path : Path} {stem : Text} {format : Format}
    {package : Option Text}
    (h : fileName? path = some (documentName stem format.extension package)) :
    extension? path = some format.extension := by
  rcases splitName_documentName stem format package with ⟨front, hsplit⟩
  rw [extension?, h, Option.bind_some, hsplit]

theorem isGoSource_of_extension? {path : Path} {format : Format}
    (h : extension? path = some format.extension) : isGoSource path = false := by
  rw [isGoSource, h]
  cases format <;> decide

/-- The name of a document has an underscore. -/
theorem fileName?_ne_of_plain {path : Path} {stem extension name : Text} {package : Option Text}
    (h : fileName? path = some (documentName stem extension package)) (hname : '_' ∉ name) :
    fileName? path ≠ some name := by
  intro heq
  rw [h] at heq
  rw [← Option.some.inj heq] at hname
  exact hname (underscore_mem_documentName stem extension package)

theorem underscore_not_mem_settingsFile {name : Text}
    (h : name ∈ Job.settingsName :: Job.settingsFiles) : '_' ∉ name := by
  have hall : ∀ name ∈ Job.settingsName :: Job.settingsFiles, '_' ∉ name := by
    decide
  exact hall name h

theorem underscore_not_mem_settingsName_append (format : Format) :
    '_' ∉ Job.settingsName ++ '.' :: format.extension := by
  cases format <;> decide

theorem isGoSource_of_firstOther? {inputs : List Path} (h : firstOther? inputs = none) :
    ∀ input ∈ inputs, isGoSource input = true := by
  intro input hinput
  simpa using List.find?_eq_none.mp h input hinput

theorem directory_document {input : Path} {package : Option Text} (hinput : isGoSource input = true)
    (hpackage : ∀ p ∈ package, '/' ∉ p) (format : Format) :
    directory (document input format.extension package) = directory input := by
  rcases exists_names_of_isGoSource hinput hpackage format with ⟨stem, hfile, -, hname, hpath⟩
  rw [hpath]
  exact directory_withFileName hfile hname

theorem exists_fileName?_document {input : Path} {package : Option Text}
    (hinput : isGoSource input = true) (hpackage : ∀ p ∈ package, '/' ∉ p) (format : Format) :
    ∃ stem, fileName? (document input format.extension package) =
      some (documentName stem format.extension package) := by
  rcases exists_names_of_isGoSource hinput hpackage format with ⟨stem, hfile, -, hname, hpath⟩
  rw [hpath]
  exact ⟨stem, (file_withFileName hfile hname).left⟩

/-- The document about an input gives the path of the input back. -/
theorem components_eq_of_document {input other : Path} {package : Option Text} {format : Format}
    (hinput : isGoSource input = true) (hother : isGoSource other = true)
    (hpackage : ∀ p ∈ package, '/' ∉ p)
    (h : components (document input format.extension package) =
      components (document other format.extension package)) :
    components input = components other := by
  rcases exists_names_of_isGoSource hinput hpackage format with ⟨stem, hfile, -, hname, hpath⟩
  rcases exists_names_of_isGoSource hother hpackage format with
    ⟨stem', hfile', -, hname', hpath'⟩
  rw [hpath, hpath', components_withFileName hfile hname,
    components_withFileName hfile' hname'] at h
  injection h with habsolute hpieces
  rcases List.append_inj' hpieces rfl with ⟨hfront, hnames⟩
  injection hnames with hnames
  rw [components_of_fileName? hfile, components_of_fileName? hfile', habsolute, hfront,
    documentName_inj hnames]

/-- Every document stands beside its input under a name that neither an input nor a settings file
has, and the documents about inputs with different paths have different paths. -/
theorem document_names_never_clash {inputs : List Path} {package : Option Text} (format : Format)
    (hinputs : firstOther? inputs = none) (hpackage : ∀ p ∈ package, '/' ∉ p) :
    (∀ input ∈ inputs,
      let output := document input format.extension package
      directory output = directory input ∧
      extension? output = some format.extension ∧
      isGoSource output = false ∧
      fileName? output ≠ some (Job.settingsName ++ '.' :: format.extension) ∧
      ∀ name ∈ Job.settingsName :: Job.settingsFiles, fileName? output ≠ some name) ∧
    ∀ input ∈ inputs, ∀ other ∈ inputs, components input ≠ components other →
      components (document input format.extension package) ≠
        components (document other format.extension package) := by
  have hsources := isGoSource_of_firstOther? hinputs
  constructor
  · intro input hinput
    have hsource := hsources input hinput
    rcases exists_fileName?_document hsource hpackage format with ⟨stem, hname⟩
    have hextension := extension?_of_fileName? hname
    refine ⟨directory_document hsource hpackage format, hextension,
      isGoSource_of_extension? hextension, ?_, ?_⟩
    · exact fileName?_ne_of_plain hname (underscore_not_mem_settingsName_append format)
    · intro name hsettings
      exact fileName?_ne_of_plain hname (underscore_not_mem_settingsFile hsettings)
  · intro input hinput other hother hne heq
    exact hne (components_eq_of_document (hsources input hinput) (hsources other hother)
      hpackage heq)

theorem document_names_never_clash_items :
    firstOther? ["shop/./items.go".toList, "/shop/v_items.go/".toList] = none ∧
      '/' ∉ "v".toList ∧
      isGoSource (document "/shop/v_items.go/".toList "md".toList (some "v".toList)) = false ∧
      components (document "shop/./items.go".toList "md".toList (some "v".toList)) ≠
        components (document "/shop/v_items.go/".toList "md".toList (some "v".toList)) := by
  have hinputs : firstOther? ["shop/./items.go".toList, "/shop/v_items.go/".toList] = none := by
    decide +kernel
  have hslash : '/' ∉ "v".toList := by
    decide
  have hpackage : ∀ p ∈ some "v".toList, '/' ∉ p := by
    intro p hp
    injection hp with hp
    rw [← hp]
    exact hslash
  rcases document_names_never_clash .markdown hinputs hpackage with ⟨hnames, hpaths⟩
  refine ⟨hinputs, hslash, (hnames _ (by simp)).right.right.left, ?_⟩
  exact hpaths _ (by simp) _ (by simp) (by decide +kernel)

end Path
end EndpointDocs
