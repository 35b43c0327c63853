import EndpointDocs.Document.Format
import EndpointDocs.Path.Output
import EndpointDocs.Proofs.Text.Ends

/-!
# The path of a document

Giving the file of a path another name keeps the pieces that lead to its directory.  The name of a
document is a name for a file, it ends in another way than the name of a Go source, and it tells the
stem that it was made from.
-/

namespace EndpointDocs
namespace Path

/-!
# Pieces
-/

/-- The names that a file can have in any directory. -/
structure IsName (name : Text) : Prop where
  one_piece : '/' ∉ name
  not_directory : isDirectory name = false

theorem IsName.ne_nil {name : Text} (h : IsName name) : name ≠ [] := by
  intro hnil
  have hdirectory := h.not_directory
  rw [hnil] at hdirectory
  cases hdirectory

theorem pieces_eq_cons (path : Path) :
    List.splitOn '/' path = first path :: (List.splitOn '/' path).tail := by
  cases hpieces : List.splitOn '/' path with
  | nil =>
      exact absurd hpieces (List.splitOn_ne_nil '/' path)
  | cons piece rest =>
      rw [first, hpieces]
      rfl

theorem slash_not_mem_piece {path piece : Text} (h : piece ∈ List.splitOn '/' path) :
    '/' ∉ piece := by
  induction path generalizing piece with
  | nil =>
      rw [List.splitOn_nil, List.mem_singleton] at h
      rw [h]
      exact List.not_mem_nil
  | cons c rest ih =>
      rw [List.splitOn_cons_eq_if_modifyHead] at h
      by_cases hc : c = '/'
      · rw [if_pos (by simp [hc])] at h
        rcases List.mem_cons.mp h with hnil | hrest
        · rw [hnil]
          exact List.not_mem_nil
        · exact ih hrest
      · rw [if_neg (by simp [hc]), pieces_eq_cons rest, List.modifyHead_cons] at h
        rcases List.mem_cons.mp h with hfirst | hlater
        · have hmem : first rest ∈ List.splitOn '/' rest := by
            rw [pieces_eq_cons rest]
            exact List.mem_cons_self
          rw [hfirst, List.mem_cons, not_or]
          exact ⟨fun heq => hc heq.symm, ih hmem⟩
        · exact ih (List.mem_of_mem_tail hlater)

/-- The first piece tells whether a path begins at the root. -/
theorem isAbsolute_eq_isEmpty_first {path : Path} (h : path ≠ []) :
    isAbsolute path = (first path).isEmpty := by
  cases path with
  | nil =>
      exact absurd rfl h
  | cons c rest =>
      by_cases hc : c = '/'
      · simp [isAbsolute, first, List.splitOn_cons_eq_if_modifyHead, hc]
      · rw [first, List.splitOn_cons_eq_if_modifyHead, if_neg (by simp [hc]), pieces_eq_cons rest,
          List.modifyHead_cons]
        simp [isAbsolute, hc]

theorem pieces_of_intercalate {pieces : List Text} (h : ∀ p ∈ pieces, '/' ∉ p)
    (hne : pieces ≠ []) : List.splitOn '/' (List.intercalate ['/'] pieces) = pieces :=
  List.splitOn_intercalate '/' h hne

theorem exists_later_append (path : Path) :
    ∃ after, List.splitOn '/' path = first path :: (later path ++ after) ∧
      ∀ p ∈ after, isTrivial p = true := by
  rcases Text.exists_eq_dropEndWhile_append isTrivial (List.splitOn '/' path).tail with
    ⟨after, htail, hafter⟩
  refine ⟨after, ?_, hafter⟩
  rw [later, ← htail]
  exact pieces_eq_cons path

/-!
# Names in place of others
-/

theorem isAbsolute_of_not_mem {name : Text} (h : '/' ∉ name) : isAbsolute name = false := by
  cases name with
  | nil =>
      rfl
  | cons c rest =>
      have hc : c ≠ '/' := fun heq => h (by simp [heq])
      simp [isAbsolute, hc]

theorem join_eq_append {front : Path} (hfront : front ≠ []) (hlast : front.getLast? ≠ some '/')
    {name : Text} (hname : '/' ∉ name) : join front name = front ++ '/' :: name := by
  rw [join, isAbsolute_of_not_mem hname, if_neg Bool.false_ne_true,
    if_neg (by simp [hfront, hlast])]

/-- A path ends with a slash only if its last piece is empty. -/
theorem getLast?_ne_slash {path : Path} (h : (List.splitOn '/' path).getLast? ≠ some []) :
    path.getLast? ≠ some '/' := by
  intro hslash
  rcases List.getLast?_eq_some_iff.mp hslash with ⟨front, hfront⟩
  apply h
  rw [hfront, List.splitOn_append_cons_self, List.splitOn_nil, List.getLast?_concat]

theorem pieces_join {pieces : List Text} (h : ∀ p ∈ pieces, '/' ∉ p) (hne : pieces ≠ [])
    (hfirst : pieces ≠ [[]]) (hlast : pieces.getLast? ≠ some []) {name : Text}
    (hname : '/' ∉ name) :
    List.splitOn '/' (join (List.intercalate ['/'] pieces) name) = pieces ++ [name] := by
  have hpieces := pieces_of_intercalate h hne
  have hfront : List.intercalate ['/'] pieces ≠ [] := by
    intro hnil
    rw [hnil, List.splitOn_nil] at hpieces
    exact hfirst hpieces.symm
  have hend : (List.intercalate ['/'] pieces).getLast? ≠ some '/' := by
    apply getLast?_ne_slash
    rw [hpieces]
    exact hlast
  rw [join_eq_append hfront hend hname, List.splitOn_append_cons_self, hpieces,
    List.splitOn_eq_singleton hname]

theorem pieces_join_ofPieces {start : Text} {pieces : List Text}
    (h : ∀ p ∈ start :: pieces, '/' ∉ p) (hlast : ∀ p ∈ pieces.getLast?, isTrivial p = false)
    {name : Text} (hname : '/' ∉ name) :
    List.splitOn '/' (join (ofPieces start pieces) name) = (start :: pieces) ++ [name] := by
  by_cases hroot : start = [] ∧ pieces = []
  · -- The root ends with a slash, so the name follows it without another.
    rcases hroot with ⟨rfl, rfl⟩
    have hjoin : join (ofPieces [] []) name = '/' :: name := by
      simp [join, ofPieces, isAbsolute_of_not_mem hname]
    rw [hjoin, List.splitOn_cons_eq_if_modifyHead, if_pos (by simp),
      List.splitOn_eq_singleton hname]
    rfl
  · have hpath : ofPieces start pieces = List.intercalate ['/'] (start :: pieces) := by
      rw [ofPieces, if_neg (by simpa using hroot)]
    rw [hpath]
    apply pieces_join h (by simp) (by simpa using hroot) _ hname
    cases hpieces : pieces.getLast? with
    | none =>
        rw [List.getLast?_eq_none_iff.mp hpieces] at hroot ⊢
        simpa using hroot
    | some piece =>
        intro hempty
        rw [List.getLast?_cons, hpieces, Option.getD_some, Option.some.injEq] at hempty
        have htrivial := hlast piece hpieces
        rw [hempty] at htrivial
        cases htrivial

/-!
# The file of a path
-/

/-- The pieces that lead to the directory of the file. -/
def leading (path : Path) : List Text :=
  if (later path).isEmpty then []
  else first path :: Text.dropEndWhile isTrivial (later path).dropLast

theorem eq_of_fileName? {path : Path} {file : Text} (h : fileName? path = some file) :
    (later path).getLast?.getD (first path) = file ∧ isDirectory file = false := by
  rw [fileName?] at h
  by_cases hdirectory : isDirectory ((later path).getLast?.getD (first path)) = true
  · simp [hdirectory] at h
  · simp only [hdirectory, Bool.false_eq_true, if_false, Option.some.injEq] at h
    exact ⟨h, h ▸ Bool.eq_false_iff.mpr hdirectory⟩

/-- A path to a file has the pieces that lead to the directory, the name of the file, and pieces
that do not count. -/
theorem exists_pieces {path : Path} {file : Text} (h : fileName? path = some file) :
    ∃ skipped after,
      List.splitOn '/' path = leading path ++ (skipped ++ file :: after) ∧
      (∀ p ∈ skipped, isTrivial p = true) ∧ (∀ p ∈ after, isTrivial p = true) ∧
      (leading path = [] → skipped = []) := by
  have hfile := (eq_of_fileName? h).left
  rcases exists_later_append path with ⟨after, hpieces, hafter⟩
  cases hlater : (later path).getLast? with
  | none =>
      have hnil : later path = [] := List.getLast?_eq_none_iff.mp hlater
      rw [hlater, Option.getD_none] at hfile
      refine ⟨[], after, ?_, by simp, hafter, fun _ => rfl⟩
      rw [hpieces, leading, hnil, hfile]
      rfl
  | some last =>
      rw [hlater, Option.getD_some] at hfile
      rcases List.getLast?_eq_some_iff.mp hlater with ⟨inner, hinner⟩
      rcases Text.exists_eq_dropEndWhile_append isTrivial inner with ⟨skipped, hsplit, hskipped⟩
      have hleading : leading path = first path :: Text.dropEndWhile isTrivial inner := by
        rw [leading, if_neg (by simp [hinner]), hinner, List.dropLast_concat]
      refine ⟨skipped, after, ?_, hskipped, hafter, fun hnil => ?_⟩
      · rw [hpieces, hleading, hinner, hfile]
        nth_rewrite 1 [hsplit]
        simp
      · rw [hleading] at hnil
        cases hnil

theorem slash_not_mem_leading {path : Path} {file : Text} (h : fileName? path = some file) :
    ∀ p ∈ leading path, '/' ∉ p := by
  intro p hp
  rcases exists_pieces h with ⟨skipped, after, hpieces, -, -, -⟩
  have hpiece : p ∈ List.splitOn '/' path := by
    rw [hpieces]
    exact List.mem_append_left _ hp
  exact slash_not_mem_piece hpiece

theorem isTrivial_getLast_leading {path : Path} {start : Text} {pieces : List Text}
    (h : leading path = start :: pieces) : ∀ p ∈ pieces.getLast?, isTrivial p = false := by
  rw [leading] at h
  split at h
  · cases h
  · injection h with _ hpieces
    rw [← hpieces]
    exact Text.not_of_mem_getLast?_dropEndWhile

/-- The directory of the file is what the pieces lead to. -/
theorem directory_eq {path : Path} {file : Text} (h : fileName? path = some file) :
    directory path =
      match leading path with
      | [] => []
      | start :: pieces => ofPieces start pieces := by
  rw [directory, if_neg (by simp [h]), leading]
  split <;> rfl

/-- The pieces before the name of a file stay when the file gets another name, but for those at
their end that do not count. -/
theorem pieces_withFileName {path : Path} {file name : Text} (h : fileName? path = some file)
    (hname : IsName name) :
    List.splitOn '/' (withFileName path name) = leading path ++ [name] := by
  rw [withFileName, directory_eq h]
  cases hleading : leading path with
  | nil =>
      rw [join]
      simp [List.splitOn_eq_singleton hname.one_piece]
  | cons start pieces =>
      have hslash : ∀ p ∈ start :: pieces, '/' ∉ p := by
        rw [← hleading]
        exact slash_not_mem_leading h
      exact pieces_join_ofPieces hslash (isTrivial_getLast_leading hleading) hname.one_piece

theorem isName_of_fileName? {path : Path} {file : Text} (h : fileName? path = some file) :
    IsName file := by
  rcases exists_pieces h with ⟨skipped, after, hpieces, -, -, -⟩
  have hpiece : file ∈ List.splitOn '/' path := by
    rw [hpieces]
    simp
  exact ⟨slash_not_mem_piece hpiece, (eq_of_fileName? h).right⟩

theorem ne_nil_of_fileName? {path : Path} {file : Text} (h : fileName? path = some file) :
    path ≠ [] := by
  intro hnil
  rw [hnil] at h
  cases h

theorem withFileName_ne_nil {path : Path} {file : Text} (h : fileName? path = some file)
    {name : Text} (hname : IsName name) : withFileName path name ≠ [] := by
  intro hnil
  have hlast := congrArg List.getLast? (pieces_withFileName h hname)
  rw [hnil, List.splitOn_nil, List.getLast?_singleton, List.getLast?_concat,
    Option.some.injEq] at hlast
  exact hname.ne_nil hlast.symm

/-- A path with another name for the file is followed from the same place. -/
theorem isAbsolute_withFileName {path : Path} {file : Text} (h : fileName? path = some file)
    {name : Text} (hname : IsName name) :
    isAbsolute (withFileName path name) = isAbsolute path := by
  rcases exists_pieces h with ⟨skipped, after, hpieces, -, -, hnone⟩
  rw [isAbsolute_eq_isEmpty_first (withFileName_ne_nil h hname),
    isAbsolute_eq_isEmpty_first (ne_nil_of_fileName? h), first, first,
    pieces_withFileName h hname, hpieces]
  cases hleading : leading path with
  | nil =>
      have hfile := (isName_of_fileName? h).ne_nil
      rw [hnone hleading]
      exact (List.isEmpty_eq_false_iff.mpr hname.ne_nil).trans
        (List.isEmpty_eq_false_iff.mpr hfile).symm
  | cons piece rest =>
      rfl

theorem getLast?_withFileName_ne_slash {path : Path} {file : Text}
    (h : fileName? path = some file) {name : Text} (hname : IsName name) :
    (withFileName path name).getLast? ≠ some '/' := by
  apply getLast?_ne_slash
  rw [pieces_withFileName h hname, List.getLast?_concat]
  intro hnil
  injection hnil with hnil
  exact hname.ne_nil hnil

/-!
# Names of sources and of documents
-/

theorem eq_append_of_splitName {name stem extension : Text}
    (h : splitName name = (stem, some extension)) : name = stem ++ '.' :: extension := by
  have hreverse := List.takeWhile_append_dropWhile (p := (· != '.')) (l := name.reverse)
  rw [splitName] at h
  cases hrest : name.reverse.dropWhile (· != '.') with
  | nil =>
      simp [hrest] at h
  | cons c rest =>
      have hdot : c = '.' := by
        have hhead := List.head_dropWhile_not (· != '.') (by simp [hrest] :
          name.reverse.dropWhile (· != '.') ≠ [])
        simpa [hrest] using hhead
      rw [hrest, hdot] at hreverse
      have hname : name = rest.reverse ++ '.' ::
          (name.reverse.takeWhile (· != '.')).reverse := by
        have hboth := congrArg List.reverse hreverse
        simpa using hboth.symm
      rw [hrest, List.reverse_cons, List.dropLast_concat] at h
      cases hstem : rest.reverse with
      | nil =>
          simp [hstem] at h
      | cons d others =>
          simp only [hstem, Prod.mk.injEq, Option.some.injEq] at h
          rw [hstem, h.left, h.right] at hname
          exact hname

/-- What comes before the extension of a Go source is the stem of its name. -/
theorem exists_stem_of_isGoSource {path : Path} (h : isGoSource path = true) :
    ∃ stem, fileStem? path = some stem ∧ fileName? path = some (stem ++ ".go".toList) := by
  rw [isGoSource, beq_iff_eq, extension?, Option.bind_eq_some_iff] at h
  rcases h with ⟨file, hfile, hextension⟩
  have hsplit : splitName file = ((splitName file).1, some "go".toList) :=
    Prod.ext rfl hextension
  refine ⟨(splitName file).1, by rw [fileStem?, hfile]; rfl, ?_⟩
  rw [hfile]
  exact congrArg some (eq_append_of_splitName hsplit)

theorem documentName_inj {stem other extension : Text} {package : Option Text}
    (h : documentName stem extension package = documentName other extension package) :
    stem = other := by
  simpa [documentName] using h

theorem underscore_mem_documentName (stem extension : Text) (package : Option Text) :
    '_' ∈ documentName stem extension package := by
  simp [documentName]

/-- A name with the extension of a format is no name of a Go source. -/
theorem documentName_ne_source (stem : Text) (format : Format) (package : Option Text)
    (other : Text) :
    documentName stem format.extension package ≠ other ++ ".go".toList := by
  intro h
  have hlast := congrArg List.getLast? h
  cases format <;> simp [documentName, Format.extension] at hlast

theorem isName_documentName {stem : Text} {package : Option Text} (hstem : '/' ∉ stem)
    (hpackage : ∀ p ∈ package, '/' ∉ p) (format : Format) :
    IsName (documentName stem format.extension package) := by
  have hextension : '/' ∉ format.extension := by
    cases format <;> decide
  have hunderscore := underscore_mem_documentName stem format.extension package
  constructor
  · cases package with
    | none =>
        simp [documentName, hstem, hextension]
    | some p =>
        simp [documentName, hstem, hextension, hpackage p rfl]
  · cases hdirectory : isDirectory (documentName stem format.extension package) with
    | false =>
        rfl
    | true =>
        rw [isDirectory, isTrivial, Bool.or_eq_true, Bool.or_eq_true, beq_iff_eq, beq_iff_eq,
          beq_iff_eq] at hdirectory
        rcases hdirectory with (hname | hname) | hname
        · rw [hname] at hunderscore
          exact absurd hunderscore (by decide)
        · rw [hname] at hunderscore
          exact absurd hunderscore (by decide)
        · rw [hname] at hunderscore
          exact absurd hunderscore (by decide)

/-- The document about a Go source has a name beside it that is made from the stem of its name. -/
theorem exists_names_of_isGoSource {path : Path} {package : Option Text}
    (h : isGoSource path = true) (hpackage : ∀ p ∈ package, '/' ∉ p) (format : Format) :
    ∃ stem, fileName? path = some (stem ++ ".go".toList) ∧ IsName (stem ++ ".go".toList) ∧
      IsName (documentName stem format.extension package) ∧
      document path format.extension package =
        withFileName path (documentName stem format.extension package) := by
  rcases exists_stem_of_isGoSource h with ⟨stem, hstem, hfile⟩
  have hname := isName_of_fileName? hfile
  have hslash : '/' ∉ stem := fun hmem => hname.one_piece (List.mem_append_left _ hmem)
  refine ⟨stem, hfile, hname, isName_documentName hslash hpackage format, ?_⟩
  rw [document, hstem]
  rfl

end Path
end EndpointDocs
