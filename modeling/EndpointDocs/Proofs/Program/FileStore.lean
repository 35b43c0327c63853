import EndpointDocs.Program.FileStore
import EndpointDocs.Proofs.Path.Document

/-!
# Following paths

A path leads to the same place in all stores with one working directory in which it leads somewhere
at all, and whether it does is only a matter of the directories.  Writing a file changes no
directory, so it changes nothing about where paths lead, and nothing about what there is at other
places.
-/

namespace EndpointDocs

open Text (Bytes)

namespace Location

theorem follow_of_isTrivial {piece : Text} (h : Path.isTrivial piece = true) (l : Location) :
    l.follow piece = l := by
  rw [follow, if_pos h]

theorem follow_of_isName {name : Text} (h : Path.isDirectory name = false) (l : Location) :
    l.follow name = ⟨l.names ++ [name]⟩ := by
  rw [Path.isDirectory, Bool.or_eq_false_iff, beq_eq_false_iff_ne] at h
  rw [follow, h.left, if_neg Bool.false_ne_true, if_neg h.right]

theorem follow_inj {l l' : Location} {name name' : Text} (h : Path.isDirectory name = false)
    (h' : Path.isDirectory name' = false) (hfollow : l.follow name = l'.follow name') :
    l = l' ∧ name = name' := by
  rw [follow_of_isName h, follow_of_isName h'] at hfollow
  injection hfollow with hnames
  rcases List.append_inj' hnames rfl with ⟨hinit, hlast⟩
  constructor
  · cases l
    cases l'
    simp_all
  · injection hlast

end Location

namespace FileStore

/-!
# Steps and walks
-/

theorem step_eq_ok_iff {s : FileStore} {l l' : Location} {piece : Text} :
    s.step l piece = .ok l' ↔ s.item? l = some .directory ∧ l' = l.follow piece := by
  rw [step]
  cases s.item? l with
  | none =>
      simp
  | some item =>
      cases item with
      | file content =>
          simp
      | directory =>
          simp [eq_comm]

theorem walk_cons_eq_ok_iff {s : FileStore} {l l' : Location} {piece : Text} {rest : List Text} :
    s.walk l (piece :: rest) = .ok l' ↔
      s.item? l = some .directory ∧ s.walk (l.follow piece) rest = .ok l' := by
  rw [walk]
  cases hstep : s.step l piece with
  | error error =>
      constructor
      · intro h
        cases h
      · intro h
        rw [step_eq_ok_iff.mpr ⟨h.left, rfl⟩] at hstep
        cases hstep
  | ok next =>
      rcases step_eq_ok_iff.mp hstep with ⟨hdirectory, hnext⟩
      rw [← hnext]
      exact ⟨fun h => ⟨hdirectory, h⟩, fun h => h.right⟩

theorem walk_append_eq_ok_iff {s : FileStore} {l l' : Location} {front back : List Text} :
    s.walk l (front ++ back) = .ok l' ↔
      ∃ mid, s.walk l front = .ok mid ∧ s.walk mid back = .ok l' := by
  induction front generalizing l with
  | nil =>
      constructor
      · intro h
        exact ⟨l, rfl, h⟩
      · rintro ⟨mid, hmid, hback⟩
        cases hmid
        exact hback
  | cons piece rest ih =>
      rw [List.cons_append, walk_cons_eq_ok_iff, ih]
      constructor
      · rintro ⟨hdirectory, mid, hrest, hback⟩
        exact ⟨mid, walk_cons_eq_ok_iff.mpr ⟨hdirectory, hrest⟩, hback⟩
      · rintro ⟨mid, hfront, hback⟩
        rcases walk_cons_eq_ok_iff.mp hfront with ⟨hdirectory, hrest⟩
        exact ⟨hdirectory, mid, hrest, hback⟩

theorem walk_of_isTrivial {s : FileStore} {l l' : Location} {pieces : List Text}
    (hpieces : ∀ p ∈ pieces, Path.isTrivial p = true) (h : s.walk l pieces = .ok l') :
    l' = l := by
  induction pieces generalizing l with
  | nil =>
      cases h
      rfl
  | cons piece rest ih =>
      have hrest := (walk_cons_eq_ok_iff.mp h).right
      rw [Location.follow_of_isTrivial (hpieces piece (by simp))] at hrest
      exact ih (fun p hp => hpieces p (by simp [hp])) hrest

/-- Where a walk leads does not depend on the store. -/
theorem walk_eq_foldl {s : FileStore} {l l' : Location} {pieces : List Text}
    (h : s.walk l pieces = .ok l') : l' = pieces.foldl Location.follow l := by
  induction pieces generalizing l with
  | nil =>
      cases h
      rfl
  | cons piece rest ih =>
      exact ih (walk_cons_eq_ok_iff.mp h).right

theorem locate_eq_ok_iff {s : FileStore} {path : Path} {l : Location} :
    s.locate path = .ok l ↔
      path ≠ [] ∧ s.walk (s.start path) (List.splitOn '/' path) = .ok l := by
  rw [locate]
  cases path with
  | nil =>
      simp
  | cons c rest =>
      simp

theorem start_congr {s s' : FileStore} (h : s'.working = s.working) (path : Path) :
    s'.start path = s.start path := by
  rw [start, start, h]

/-!
# Stores with the same directories
-/

/-- Whether two stores have the same directories, and the same one of them as the working
directory. -/
structure SameDirectories (s s' : FileStore) : Prop where
  working_eq : s'.working = s.working
  directory_iff : ∀ l, s'.item? l = some .directory ↔ s.item? l = some .directory

namespace SameDirectories

variable {s s' s'' : FileStore}

theorem refl (s : FileStore) : SameDirectories s s :=
  ⟨rfl, fun _ => Iff.rfl⟩

theorem trans (h : SameDirectories s s') (h' : SameDirectories s' s'') : SameDirectories s s'' :=
  ⟨h'.working_eq.trans h.working_eq,
    fun l => (h'.directory_iff l).trans (h.directory_iff l)⟩

theorem walk_eq_ok_iff (h : SameDirectories s s') {l l' : Location} {pieces : List Text} :
    s'.walk l pieces = .ok l' ↔ s.walk l pieces = .ok l' := by
  induction pieces generalizing l with
  | nil =>
      exact Iff.rfl
  | cons piece rest ih =>
      rw [walk_cons_eq_ok_iff, walk_cons_eq_ok_iff, ih, h.directory_iff l]

theorem locate_eq_ok_iff (h : SameDirectories s s') {path : Path} {l : Location} :
    s'.locate path = .ok l ↔ s.locate path = .ok l := by
  rw [FileStore.locate_eq_ok_iff, FileStore.locate_eq_ok_iff, start_congr h.working_eq,
    h.walk_eq_ok_iff]

end SameDirectories

/-- A path leads to the same place in every store with one working directory in which it leads
somewhere. -/
theorem location_unique {s s' : FileStore} {path : Path} {l l' : Location}
    (hworking : s'.working = s.working) (h : s.locate path = .ok l)
    (h' : s'.locate path = .ok l') : l = l' := by
  have hwalk' := (locate_eq_ok_iff.mp h').right
  rw [start_congr hworking] at hwalk'
  rw [walk_eq_foldl (locate_eq_ok_iff.mp h).right, walk_eq_foldl hwalk']

/-!
# Paths from the root

What a path leads to from the working directory, it leads to from the root as well, behind the path
of the working directory.
-/

/-- The path of a directory from the root, with a slash at its end. -/
def rootPath (l : Location) : Path :=
  '/' :: l.names.flatMap fun name => name ++ ['/']

theorem pieces_rootPath_append {names : List Text} (h : ∀ name ∈ names, '/' ∉ name) (path : Path) :
    List.splitOn '/' (rootPath ⟨names⟩ ++ path) = [] :: (names ++ List.splitOn '/' path) := by
  have hnames : List.splitOn '/' (names.flatMap (fun name => name ++ ['/']) ++ path) =
      names ++ List.splitOn '/' path := by
    induction names with
    | nil =>
        rfl
    | cons name rest ih =>
        rw [List.flatMap_cons, List.append_assoc, List.append_assoc, List.singleton_append,
          List.splitOn_append_cons_self, List.splitOn_eq_singleton (h name List.mem_cons_self),
          ih fun other hother => h other (List.mem_cons_of_mem name hother)]
        rfl
  rw [rootPath, List.cons_append, List.splitOn_cons_eq_if_modifyHead, if_pos (by simp), hnames]

/-- The names of the working directory lead down to it. -/
theorem walk_of_isOnWay {s : FileStore} (front : List Text) {names : List Text}
    (hnames : ∀ name ∈ names, Path.isDirectory name = false)
    (hway : front ++ names <+: s.working.names) (back : List Text) :
    s.walk ⟨front⟩ (names ++ back) = s.walk ⟨front ++ names⟩ back := by
  induction names generalizing front with
  | nil =>
      rw [List.nil_append, List.append_nil]
  | cons name rest ih =>
      have hdirectory : s.item? ⟨front⟩ = some .directory :=
        if_pos (List.isPrefixOf_iff_prefix.mpr ((List.prefix_append _ _).trans hway))
      have hstep : s.step ⟨front⟩ name = .ok ⟨front ++ [name]⟩ := by
        rw [step_eq_ok_iff, Location.follow_of_isName (hnames name List.mem_cons_self)]
        exact ⟨hdirectory, rfl⟩
      rw [List.append_cons] at hway
      rw [List.cons_append, walk, hstep]
      dsimp only
      rw [ih (front ++ [name]) (fun other hother => hnames other (List.mem_cons_of_mem name hother))
        hway, ← List.append_cons]

theorem locate_rootPath_append {s : FileStore} (h : ∀ name ∈ s.working.names, Path.IsName name)
    {path : Path} (hne : path ≠ []) (hrelative : Path.isAbsolute path = false) :
    s.locate (rootPath s.working ++ path) = s.locate path := by
  have hstep : s.step {} [] = .ok {} := by
    rw [step_eq_ok_iff, Location.follow_of_isTrivial rfl]
    exact ⟨rfl, rfl⟩
  have hwalk := walk_of_isOnWay [] (fun name hname => (h name hname).not_directory)
    (List.prefix_refl s.working.names) (List.splitOn '/' path)
  have hpieces := pieces_rootPath_append (fun name hname => (h name hname).one_piece) path
  have hroot : s.start (rootPath s.working ++ path) = {} := rfl
  have hworking : s.start path = s.working := by
    rw [start, hrelative, if_neg Bool.false_ne_true]
  rw [locate, locate, hroot, hworking, hpieces, walk, hstep, if_neg (by simp [rootPath]),
    if_neg (by simpa using hne)]
  exact hwalk

/-!
# Reading and writing
-/

theorem read_eq_ok_iff {s : FileStore} {path : Path} {content : Bytes} :
    s.read path = .ok content ↔
      ∃ l, s.locate path = .ok l ∧ s.item? l = some (.file content) := by
  rw [read]
  cases hlocate : s.locate path with
  | error error =>
      simp
  | ok l =>
      cases hitem : s.item? l with
      | none =>
          simp [hitem]
      | some item =>
          cases item with
          | file stored =>
              simp [hitem]
          | directory =>
              simp [hitem]

theorem item?_put_self {s : FileStore} {l : Location} (h : s.item? l ≠ some .directory)
    (item : FileItem) : (s.put l item).item? l = some item := by
  have hbelow : ¬ l.isOnWayTo s.working = true := fun hway => h (if_pos hway)
  rw [item?, put, if_neg hbelow, List.lookup_cons_self]

theorem item?_put_of_ne {l l' : Location} (h : l' ≠ l) (s : FileStore) (item : FileItem) :
    (s.put l item).item? l' = s.item? l' := by
  rw [item?, item?, put, List.lookup_cons, beq_eq_false_iff_ne.mpr h]

theorem sameDirectories_put {s : FileStore} {l : Location} (h : s.item? l ≠ some .directory)
    (content : Bytes) : SameDirectories s (s.put l (.file content)) := by
  refine ⟨rfl, ?_⟩
  intro l'
  by_cases hl : l' = l
  · subst hl
    rw [item?_put_self h]
    simp [h]
  · rw [item?_put_of_ne hl]

theorem withoutSlashes_eq_self {path : Path} (h : path.getLast? ≠ some '/') :
    withoutSlashes path = path := by
  have hfront : Text.dropEndWhile (· == '/') path = path := by
    apply Text.dropEndWhile_eq_self
    intro c hc
    rw [beq_eq_false_iff_ne]
    intro heq
    exact h (by rw [← heq]; exact hc)
  rw [withoutSlashes, hfront]
  cases path with
  | nil =>
      rfl
  | cons c rest =>
      rfl

theorem write_eq_ok_iff {s s' : FileStore} {path : Path} {content : Bytes} :
    s.write path content = .ok s' ↔
      path.getLast? ≠ some '/' ∧ ∃ l, s.locate path = .ok l ∧
        s.item? l ≠ some .directory ∧ s' = s.put l (.file content) := by
  by_cases hslash : path.getLast? = some '/'
  · rw [write]
    cases s.locate (withoutSlashes path) with
    | error error =>
        simp [hslash]
    | ok l =>
        simp [hslash]
  · rw [write, withoutSlashes_eq_self hslash]
    cases hlocate : s.locate path with
    | error error =>
        simp
    | ok l =>
        by_cases hdirectory : s.item? l = some .directory
        · simp [hdirectory]
        · simp only [hslash, hdirectory, or_self, if_false, Except.ok.injEq]
          constructor
          · intro hs'
            exact ⟨hslash, l, rfl, hdirectory, hs'.symm⟩
          · rintro ⟨-, l', hl, -, hs'⟩
            rw [hs', ← hl]

/-- Whether a file can be written is only a matter of the directories. -/
theorem SameDirectories.exists_write_iff {s s' : FileStore} (h : SameDirectories s s')
    {path : Path} {content : Bytes} :
    (∃ later, s'.write path content = .ok later) ↔ ∃ later, s.write path content = .ok later := by
  simp only [write_eq_ok_iff, h.locate_eq_ok_iff, ne_eq, h.directory_iff]
  constructor
  · rintro ⟨-, hslash, l, hl, hfree, -⟩
    exact ⟨_, hslash, l, hl, hfree, rfl⟩
  · rintro ⟨-, hslash, l, hl, hfree, -⟩
    exact ⟨_, hslash, l, hl, hfree, rfl⟩

/-!
# The file of a path and others beside it
-/

/-- Where a path leads is the directory of its file, followed by the name of the file.  Other names
in place of that one lead to places in the same directory. -/
theorem exists_directory_of_locate {s : FileStore} {path : Path} {file : Text} {l : Location}
    (hfile : Path.fileName? path = some file) (h : s.locate path = .ok l) :
    ∃ d : Location, l = d.follow file ∧
      ∀ name, Path.IsName name → s.locate (Path.withFileName path name) = .ok (d.follow name) := by
  have hwalk := (locate_eq_ok_iff.mp h).right
  rcases Path.exists_pieces hfile with ⟨skipped, after, hpieces, hskipped, hafter, -⟩
  rw [hpieces, walk_append_eq_ok_iff] at hwalk
  rcases hwalk with ⟨d, hbefore, hrest⟩
  rcases walk_append_eq_ok_iff.mp hrest with ⟨d', hd', hlast⟩
  rw [walk_of_isTrivial hskipped hd', walk_cons_eq_ok_iff] at hlast
  rcases hlast with ⟨hdirectory, hwalkAfter⟩
  refine ⟨d, walk_of_isTrivial hafter hwalkAfter, ?_⟩
  intro name hname
  have hstart : s.start (Path.withFileName path name) = s.start path := by
    rw [start, start, Path.isAbsolute_withFileName hfile hname]
  rw [locate_eq_ok_iff, hstart, Path.pieces_withFileName hfile hname, walk_append_eq_ok_iff]
  exact ⟨Path.withFileName_ne_nil hfile hname, d, hbefore,
    walk_cons_eq_ok_iff.mpr ⟨hdirectory, rfl⟩⟩

end FileStore
end EndpointDocs
