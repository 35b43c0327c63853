import EndpointDocs.Proofs.Program.FileStore

/-!
# What writing files changes

Files that have been written one after the other hold what was written to them, and there is nothing
new anywhere else.  This tells all there is in the store afterwards, so the order of writing does
not matter, as long as no two of the files with different contents stand at one place.
-/

namespace EndpointDocs

open Text (Bytes)

namespace FileStore

/-- What is left of a store when some files have been written to it. -/
structure Written (files : List (Path × Bytes)) (before after : FileStore) : Prop where
  content : ∀ f ∈ files, after.read f.1 = .ok f.2
  directories : SameDirectories before after
  untouched : ∀ l, (∀ f ∈ files, before.locate f.1 ≠ .ok l) → after.item? l = before.item? l

namespace Written

variable {files : List (Path × Bytes)} {before after : FileStore}

theorem refl (s : FileStore) : Written [] s s where
  content := by
    intro f hf
    cases hf
  directories := SameDirectories.refl s
  untouched := fun _ _ => rfl

theorem item?_of_locate (h : Written files before after) {f : Path × Bytes} (hf : f ∈ files)
    {l : Location} (hl : before.locate f.1 = .ok l) : after.item? l = some (.file f.2) := by
  rcases read_eq_ok_iff.mp (h.content f hf) with ⟨l', hl', hitem⟩
  rw [location_unique h.directories.working_eq hl hl']
  exact hitem

/-- Files that have been written could be written from the beginning. -/
theorem exists_location (h : Written files before after) {f : Path × Bytes} (hf : f ∈ files) :
    ∃ l, before.locate f.1 = .ok l ∧ before.item? l ≠ some .directory := by
  rcases read_eq_ok_iff.mp (h.content f hf) with ⟨l, hl, hitem⟩
  refine ⟨l, h.directories.locate_eq_ok_iff.mp hl, ?_⟩
  intro hdirectory
  rw [(h.directories.directory_iff l).mpr hdirectory] at hitem
  cases hitem

/-- What one more file changes, if it agrees with those that stand at the same place. -/
theorem write {later : FileStore} {path : Path} {content : Bytes}
    (h : Written files before after) (hwrite : after.write path content = .ok later)
    (hagree : ∀ f ∈ files, ∀ l, before.locate f.1 = .ok l → before.locate path = .ok l →
      f.2 = content) :
    Written (files ++ [(path, content)]) before later := by
  rcases write_eq_ok_iff.mp hwrite with ⟨-, l, hl, hfree, rfl⟩
  have hbefore : before.locate path = .ok l := h.directories.locate_eq_ok_iff.mp hl
  have hdirectories : SameDirectories before (after.put l (.file content)) :=
    h.directories.trans (sameDirectories_put hfree content)
  refine ⟨?_, hdirectories, ?_⟩
  · intro f hf
    rcases List.mem_append.mp hf with hold | hnew
    · rcases h.exists_location hold with ⟨l', hl', -⟩
      rw [read_eq_ok_iff]
      refine ⟨l', hdirectories.locate_eq_ok_iff.mpr hl', ?_⟩
      by_cases hsame : l' = l
      · rw [hsame] at hl' ⊢
        rw [item?_put_self hfree, hagree f hold l hl' hbefore]
      · rw [item?_put_of_ne hsame]
        exact h.item?_of_locate hold hl'
    · rw [List.mem_singleton.mp hnew, read_eq_ok_iff]
      exact ⟨l, hdirectories.locate_eq_ok_iff.mpr hbefore, item?_put_self hfree _⟩
  · intro l' hl'
    have hne : l' ≠ l := by
      intro heq
      apply hl' (path, content) (by simp)
      rw [heq]
      exact hbefore
    rw [item?_put_of_ne hne]
    exact h.untouched l' fun f hf => hl' f (by simp [hf])

theorem of_write {s s' : FileStore} {path : Path} {content : Bytes}
    (h : s.write path content = .ok s') : Written [(path, content)] s s' :=
  (refl s).write h (by simp)

/-- The files that have been written tell what there is afterwards. -/
theorem item?_congr {others : List (Path × Bytes)} {other : FileStore}
    (h : Written files before after) (hothers : Written others before other)
    (hsame : ∀ f, f ∈ others ↔ f ∈ files) (l : Location) : other.item? l = after.item? l := by
  by_cases hl : ∃ f ∈ files, before.locate f.1 = .ok l
  · rcases hl with ⟨f, hf, hl⟩
    rw [h.item?_of_locate hf hl, hothers.item?_of_locate ((hsame f).mpr hf) hl]
  · have hnone : ∀ f ∈ files, before.locate f.1 ≠ .ok l := fun f hf hlocate =>
      hl ⟨f, hf, hlocate⟩
    rw [h.untouched l hnone, hothers.untouched l fun f hf => hnone f ((hsame f).mp hf)]

/-- Writing the same files again changes nothing. -/
theorem item?_again {again : FileStore} (h : Written files before after)
    (hagain : Written files after again) (l : Location) : again.item? l = after.item? l := by
  by_cases hl : ∃ f ∈ files, after.locate f.1 = .ok l
  · rcases hl with ⟨f, hf, hl⟩
    rw [hagain.item?_of_locate hf hl, h.item?_of_locate hf (h.directories.locate_eq_ok_iff.mp hl)]
  · exact hagain.untouched l fun f hf hlocate => hl ⟨f, hf, hlocate⟩

end Written
end FileStore
end EndpointDocs
