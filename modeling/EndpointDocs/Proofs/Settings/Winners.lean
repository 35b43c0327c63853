import EndpointDocs.Settings.Layers
import Mathlib.Data.List.Nodup
import Mathlib.Logic.ExistsUnique

/-!
# The values that win

Each setting has one winner, whatever the other two are: the value of the command line, else the
one of its environment variable, else the one of the settings file, else its default.  A run has
settings if the winners fit, and these settings are what the winners stand for, so values that lose
need not fit.

## Empty tables

Tables of a settings file are added to what is given before.  An empty table adds nothing, so it
leaves a default as it is, and only counts for a setting that has none.
-/

namespace EndpointDocs

namespace Value

theorem lookup?_eq_none_iff {name : Text} {entries : List (Text × Value)} :
    lookup? name entries = none ↔ ∀ entry ∈ entries, entry.1 ≠ name := by
  induction entries with
  | nil =>
      simp [lookup?]
  | cons entry rest ih =>
      rw [lookup?, Option.or_eq_none_iff, ih, List.forall_mem_cons, and_comm, ite_eq_right_iff]
      simp

end Value

namespace Settings

/-!
# What each place gives
-/

/-- Whether this is the value of the last entry that is named for a setting. -/
def IsLast (k : Key) (entries : List (Text × Value)) (v : Value) : Prop :=
  ∃ before name after, entries = before ++ (name, v) :: after ∧ Text.lowercase name = k.name ∧
    ∀ entry ∈ after, Text.lowercase entry.1 ≠ k.name

/-- Whether a settings file gives this value for a setting. -/
def FileGives (file : Option File) (k : Key) (v : Value) : Prop :=
  ∃ entries, fileEntries file = .ok entries ∧ IsLast k entries v

/-- Whether an environment gives this text for a setting. -/
def EnvironmentGives (env : Environment) (k : Key) (t : Text) : Prop :=
  ∃ name, (name, t) ∈ env ∧ Text.lowercase name = variableName k

/-- Whether no two names of an environment are the same in lower case. -/
def DistinctNames (env : Environment) : Prop :=
  (env.map fun entry => Text.lowercase entry.1).Nodup

theorem isLast_cons_iff {k : Key} {entry : Text × Value} {rest : List (Text × Value)} {v : Value} :
    IsLast k (entry :: rest) v ↔
      IsLast k rest v ∨ (∀ later ∈ rest, Text.lowercase later.1 ≠ k.name) ∧
        Text.lowercase entry.1 = k.name ∧ entry.2 = v := by
  constructor
  · rintro ⟨before, name, after, hentries, hname, hafter⟩
    cases before with
    | nil =>
        obtain ⟨rfl, rfl⟩ := List.cons.inj hentries
        exact Or.inr ⟨hafter, hname, rfl⟩
    | cons first before =>
        obtain ⟨rfl, rfl⟩ := List.cons.inj hentries
        exact Or.inl ⟨before, name, after, rfl, hname, hafter⟩
  · rintro (⟨before, name, after, rfl, hname, hafter⟩ | ⟨hafter, hname, rfl⟩)
    · exact ⟨entry :: before, name, after, rfl, hname, hafter⟩
    · exact ⟨[], entry.1, rest, rfl, hname, hafter⟩

theorem lookup?_lowercase_eq_some_iff {k : Key} {entries : List (Text × Value)} {v : Value} :
    Value.lookup? k.name (entries.map fun entry => (Text.lowercase entry.1, entry.2)) = some v ↔
      IsLast k entries v := by
  induction entries with
  | nil =>
      simp [Value.lookup?, IsLast]
  | cons entry rest ih =>
      rw [List.map_cons, Value.lookup?, Option.or_eq_some_iff, ih, isLast_cons_iff,
        Value.lookup?_eq_none_iff, List.forall_mem_map]
      simp

theorem ofEntries_eq_of_isLast {k : Key} {entries : List (Text × Value)} {v : Value}
    (file : Option File) (h : IsLast k entries v) :
    ofEntries file entries k = some ⟨v, file.map File.name⟩ := by
  rw [ofEntries, lookup?_lowercase_eq_some_iff.mpr h]
  rfl

theorem ofEntries_eq_none {k : Key} {entries : List (Text × Value)} (file : Option File)
    (h : ∀ v, ¬ IsLast k entries v) : ofEntries file entries k = none := by
  rw [ofEntries, Option.map_eq_none_iff, Option.eq_none_iff_forall_ne_some]
  intro v hv
  exact h v (lookup?_lowercase_eq_some_iff.mp hv)

theorem ofEnvironment_eq_of_gives {env : Environment} {k : Key} {t : Text}
    (henv : DistinctNames env) (h : EnvironmentGives env k t) :
    ofEnvironment env k = some ⟨.text t, some "the environment".toList⟩ := by
  obtain ⟨name, hmem, hname⟩ := h
  rw [ofEnvironment]
  cases hfound : env.reverse.find? fun entry => Text.lowercase entry.1 == variableName k with
  | none =>
      rw [List.find?_eq_none] at hfound
      have hother := hfound (name, t) (List.mem_reverse.mpr hmem)
      simp [hname] at hother
  | some entry =>
      have hsame : Text.lowercase entry.1 = variableName k := by
        simpa using List.find?_some hfound
      have hentry : entry = (name, t) :=
        List.inj_on_of_nodup_map henv (List.mem_reverse.mp (List.mem_of_find?_eq_some hfound)) hmem
          (hsame.trans hname.symm)
      rw [hentry]
      rfl

theorem ofEnvironment_eq_none {env : Environment} {k : Key} (h : ∀ t, ¬ EnvironmentGives env k t) :
    ofEnvironment env k = none := by
  rw [ofEnvironment, Option.map_eq_none_iff, List.find?_eq_none]
  intro entry hentry hname
  exact h entry.2 ⟨entry.1, List.mem_reverse.mp hentry, beq_iff_eq.mp hname⟩

/-!
# Winners
-/

/-- Whether a value of a settings file takes the place of a default. -/
def Counts (k : Key) (v : Value) : Prop :=
  v = .table [] → defaults k = none

/-- The place of a settings file's value that errors tell, which is none for a table. -/
def File.origin (file : Option File) : Value → Option Text
  | .table _ => none
  | _ => file.map File.name

/-- What is used for a setting, if anything is. -/
inductive Wins (file : Option File) (env : Environment) (o : Overrides) (k : Key) :
    Option Given → Prop where
  | commandLine {g : Given} (ho : ofOverrides o k = some g) : Wins file env o k (some g)
  | environment {t : Text} (ho : ofOverrides o k = none) (ht : EnvironmentGives env k t) :
      Wins file env o k (some ⟨.text t, some "the environment".toList⟩)
  | entry {v : Value} (ho : ofOverrides o k = none) (henv : ∀ t, ¬ EnvironmentGives env k t)
      (hv : FileGives file k v) (hcounts : Counts k v) :
      Wins file env o k (some ⟨v, File.origin file v⟩)
  | default (ho : ofOverrides o k = none) (henv : ∀ t, ¬ EnvironmentGives env k t)
      (hfile : ∀ v, FileGives file k v → ¬ Counts k v) : Wins file env o k (defaults k)

theorem exists_wins (file : Option File) (env : Environment) (o : Overrides) (k : Key) :
    ∃ g, Wins file env o k g := by
  cases ho : ofOverrides o k with
  | some g =>
      exact ⟨some g, .commandLine ho⟩
  | none =>
      by_cases henv : ∃ t, EnvironmentGives env k t
      · obtain ⟨t, ht⟩ := henv
        exact ⟨_, .environment ho ht⟩
      · rw [not_exists] at henv
        by_cases hfile : ∃ v, FileGives file k v ∧ Counts k v
        · obtain ⟨v, hv, hcounts⟩ := hfile
          exact ⟨_, .entry ho henv hv hcounts⟩
        · refine ⟨_, .default ho henv ?_⟩
          intro v hv hcounts
          exact hfile ⟨v, hv, hcounts⟩

/-!
# Layers over layers
-/

theorem Layer.over_of_some {upper lower : Layer} {k : Key} {g : Given} (h : upper k = some g) :
    upper.over lower k = some (g.over (lower k)) := by
  simp only [Layer.over, h]

theorem Layer.over_of_none {upper lower : Layer} {k : Key} (h : upper k = none) :
    upper.over lower k = lower k := by
  simp only [Layer.over, h]

theorem over_of_override {o : Overrides} {k : Key} {g : Given} (h : ofOverrides o k = some g)
    (lower : Option Given) : g.over lower = g := by
  cases k <;>
    · obtain ⟨value, -, rfl⟩ := Option.map_eq_some_iff.mp h
      rfl

theorem over_defaults_of_counts {file : Option File} {k : Key} {v : Value} (h : Counts k v) :
    (⟨v, file.map File.name⟩ : Given).over (defaults k) = ⟨v, File.origin file v⟩ := by
  cases v with
  | table entries =>
      cases entries with
      | nil =>
          rw [h rfl]
          rfl
      | cons entry rest =>
          rfl
  | null | bool | integer | float | text | list =>
      rfl

theorem over_defaults_of_not_counts {file : Option File} {k : Key} {v : Value}
    (h : ¬ Counts k v) : some ((⟨v, file.map File.name⟩ : Given).over (defaults k)) = defaults k := by
  obtain ⟨rfl, hdefault⟩ := Classical.not_imp.mp h
  obtain ⟨g, hg⟩ := Option.ne_none_iff_exists'.mp hdefault
  rw [hg]
  rfl

theorem layered_of_wins {file : Option File} {entries : List (Text × Value)} {env : Environment}
    {o : Overrides} {k : Key} {g : Option Given} (hfile : fileEntries file = .ok entries)
    (henv : DistinctNames env) (h : Wins file env o k g) : layered file entries env o k = g := by
  unfold layered
  cases h with
  | commandLine ho =>
      rw [Layer.over_of_some ho, over_of_override ho]
  | environment ho ht =>
      rw [Layer.over_of_none ho, Layer.over_of_some (ofEnvironment_eq_of_gives henv ht)]
      rfl
  | entry ho hvars hv hcounts =>
      obtain ⟨entries', hentries, hlast⟩ := hv
      rw [hfile] at hentries
      obtain rfl := Except.ok.inj hentries
      rw [Layer.over_of_none ho, Layer.over_of_none (ofEnvironment_eq_none hvars),
        Layer.over_of_some (ofEntries_eq_of_isLast file hlast), over_defaults_of_counts hcounts]
  | default ho hvars hnone =>
      rw [Layer.over_of_none ho, Layer.over_of_none (ofEnvironment_eq_none hvars)]
      -- an entry may be there, but then it is an empty table, which leaves the default
      by_cases hlast : ∃ v, IsLast k entries v
      · obtain ⟨v, hv⟩ := hlast
        rw [Layer.over_of_some (ofEntries_eq_of_isLast file hv),
          over_defaults_of_not_counts (hnone v ⟨entries, hfile, hv⟩)]
      · exact Layer.over_of_none (ofEntries_eq_none file (not_exists.mp hlast))

theorem wins_iff {file : Option File} {entries : List (Text × Value)} {env : Environment}
    {o : Overrides} {k : Key} {g : Option Given} (hfile : fileEntries file = .ok entries)
    (henv : DistinctNames env) : Wins file env o k g ↔ layered file entries env o k = g := by
  constructor
  · exact layered_of_wins hfile henv
  · rintro rfl
    obtain ⟨g, hg⟩ := exists_wins file env o k
    rw [layered_of_wins hfile henv hg]
    exact hg

/-!
# Settings of winners
-/

/-- The output path that a winner stands for. -/
inductive IsOut : Option Given → Option Path → Prop where
  | missing : IsOut none none
  | null {origin : Option Text} : IsOut (some ⟨.null, origin⟩) none
  | path {g : Given} {t : Text} (ht : toText g.value = .ok t) : IsOut (some g) (some t)

theorem convert_eq_ok_iff {α : Type} {g : Given} {k : Key} {wanted : Wanted}
    {as : Value → Except Text α} {a : α} : g.convert k wanted as = .ok a ↔ as g.value = .ok a := by
  rw [Given.convert]
  cases as g.value with
  | ok b =>
      simp
  | error found =>
      simp

theorem convert_getD_eq_ok_iff {α : Type} {g : Option Given} {k : Key} {wanted : Wanted}
    {as : Value → Except Text α} {a : α} (hnull : as .null ≠ .ok a) :
    (g.getD ⟨.null, none⟩).convert k wanted as = .ok a ↔ ∃ h, g = some h ∧ as h.value = .ok a := by
  rw [convert_eq_ok_iff]
  cases g with
  | none =>
      constructor
      · intro h
        exact absurd h hnull
      · rintro ⟨h, hnone, -⟩
        cases hnone
  | some g =>
      simp

theorem outOf_eq_ok_iff {g : Option Given} {out : Option Path} :
    outOf (g.getD ⟨.null, none⟩) = .ok out ↔ IsOut g out := by
  constructor
  · intro h
    cases g with
    | none =>
        obtain rfl := Except.ok.inj h
        exact .missing
    | some g =>
        rw [Option.getD_some, outOf] at h
        split at h
        · next hnull =>
            obtain ⟨v, origin⟩ := g
            obtain rfl : v = .null := hnull
            obtain rfl := Except.ok.inj h
            exact .null
        · cases ht : g.convert .out .text toText with
          | error error =>
              rw [ht] at h
              cases h
          | ok t =>
              rw [ht] at h
              obtain rfl := Except.ok.inj h
              exact .path (convert_eq_ok_iff.mp ht)
  · intro h
    cases h with
    | missing =>
        rfl
    | null =>
        rfl
    | path ht =>
        rw [Option.getD_some, outOf]
        split
        · next hnull =>
            rw [hnull] at ht
            cases ht
        · rw [convert_eq_ok_iff.mpr ht]
          rfl

theorem formatOf_eq_ok_iff {name : Text} {f : Format} : formatOf name = .ok f ↔ name = f.name := by
  constructor
  · intro h
    rw [formatOf] at h
    split at h
    · next found hfound =>
        obtain rfl := Except.ok.inj h
        have hsame : found.name = name := by
          simpa using List.find?_some hfound
        exact hsame.symm
    · cases h
  · rintro rfl
    cases f <;> rfl

theorem bind_eq_ok_iff {ε α β : Type} {x : Except ε α} {f : α → Except ε β} {b : β} :
    (x >>= f) = .ok b ↔ ∃ a, x = .ok a ∧ f a = .ok b := by
  cases x with
  | error e =>
      simp [bind, Except.bind]
  | ok a =>
      simp [bind, Except.bind]

theorem ofLayer_eq_ok_iff {layer : Layer} {s : Settings} :
    ofLayer layer = .ok s ↔
      (∃ g, layer .strict = some g ∧ toBool g.value = .ok s.strict) ∧
        (∃ g, layer .format = some g ∧ toText g.value = .ok s.format.name) ∧
          IsOut (layer .out) s.out := by
  have hgivenStrict : strictOf ((layer .strict).getD ⟨.null, none⟩) = .ok s.strict ↔
      ∃ g, layer .strict = some g ∧ toBool g.value = .ok s.strict :=
    convert_getD_eq_ok_iff nofun
  have hgivenName : formatNameOf ((layer .format).getD ⟨.null, none⟩) = .ok s.format.name ↔
      ∃ g, layer .format = some g ∧ toText g.value = .ok s.format.name :=
    convert_getD_eq_ok_iff nofun
  rw [← hgivenStrict, ← hgivenName, ← outOf_eq_ok_iff, ofLayer]
  simp only [bind_eq_ok_iff]
  constructor
  · rintro ⟨strict, hstrict, name, hname, out, hout, format, hformat, hs⟩
    obtain rfl := Except.ok.inj hs
    obtain rfl := formatOf_eq_ok_iff.mp hformat
    exact ⟨hstrict, hname, hout⟩
  · rintro ⟨hstrict, hname, hout⟩
    exact ⟨s.strict, hstrict, s.format.name, hname, s.out, hout, s.format,
      formatOf_eq_ok_iff.mpr rfl, rfl⟩

theorem entries_eq_error {f : File} (h : ∀ entries, f.entries ≠ .ok entries) :
    f.entries = .error (.unreadableFile f.name) := by
  rw [File.entries] at h ⊢
  split at h
  · next entries hvalue =>
      exact absurd rfl (h entries)
  · rfl

theorem load_by_winners (file : Option File) (env : Environment) (o : Overrides)
    (henv : DistinctNames env) :
    ((∀ entries, fileEntries file ≠ .ok entries) →
      ∃ f, file = some f ∧ load file env o = .error (.unreadableFile f.name)) ∧
    ∀ entries, fileEntries file = .ok entries →
      (∀ k, ∃! g, Wins file env o k g) ∧
      (∀ s, load file env o = .ok s ↔
        (∃ g, Wins file env o .strict (some g) ∧ toBool g.value = .ok s.strict) ∧
        (∃ g, Wins file env o .format (some g) ∧ toText g.value = .ok s.format.name) ∧
        (∃ g, Wins file env o .out g ∧ IsOut g s.out)) ∧
      ∀ file' env' o' entries', DistinctNames env' → fileEntries file' = .ok entries' →
        (∀ k g, Wins file env o k g → Wins file' env' o' k g) →
          load file' env' o' = load file env o := by
  constructor
  · intro hunread
    cases file with
    | none =>
        exact absurd rfl (hunread [])
    | some f =>
        refine ⟨f, rfl, ?_⟩
        rw [load, fileEntries, entries_eq_error hunread]
  · intro entries hfile
    refine ⟨?_, ?_, ?_⟩
    · intro k
      refine ⟨layered file entries env o k, (wins_iff hfile henv).mpr rfl, ?_⟩
      intro g hg
      exact ((wins_iff hfile henv).mp hg).symm
    · intro s
      simp only [wins_iff hfile henv, exists_eq_left']
      simp only [load, hfile]
      exact ofLayer_eq_ok_iff
    · intro file' env' o' entries' henv' hfile' hsame
      have hlayers : layered file' entries' env' o' = layered file entries env o := by
        funext k
        exact (wins_iff hfile' henv').mp (hsame k _ ((wins_iff hfile henv).mpr rfl))
      simp only [load, hfile, hfile', hlayers]

/-- A file with values for all settings, of which one fits. -/
def mixedFile : File :=
  ⟨"apidoc.json".toList,
    Text.encode "\x7b\"strict\": [], \"format\": \x7b\x7d, \"Out\": 7\x7d".toList⟩

/-- An environment with values for two settings, of which one fits. -/
def mixedVariables : Environment :=
  [("APIDOC_STRICT".toList, "maybe".toList), ("apidoc_Format".toList, "json".toList)]

theorem load_mixed :
    DistinctNames mixedVariables ∧
      load (some mixedFile) mixedVariables { strict := some true } =
        .ok ⟨true, .json, some "7".toList⟩ := by
  have henv : DistinctNames mixedVariables := by
    unfold DistinctNames
    decide +kernel
  obtain ⟨-, hload, -⟩ := (load_by_winners (some mixedFile) mixedVariables { strict := some true }
    henv).right [("strict".toList, .list []), ("format".toList, .table []),
      ("Out".toList, .integer 7)] rfl
  have hformat : EnvironmentGives mixedVariables .format "json".toList :=
    ⟨"apidoc_Format".toList, .tail _ (.head _), by decide +kernel⟩
  have hvariables : ∀ t, ¬ EnvironmentGives mixedVariables .out t := by
    rintro t ⟨name, hmem, hname⟩
    have hother : ∀ entry ∈ mixedVariables, Text.lowercase entry.1 ≠ variableName .out := by
      decide +kernel
    exact hother _ hmem hname
  have hout : FileGives (some mixedFile) .out (.integer 7) :=
    ⟨_, rfl, [("strict".toList, .list []), ("format".toList, .table [])], "Out".toList, [], rfl,
      rfl, List.forall_mem_nil _⟩
  refine ⟨henv, (hload _).mpr ⟨?_, ?_, ?_⟩⟩
  · exact ⟨_, .commandLine rfl, rfl⟩
  · exact ⟨_, .environment rfl hformat, rfl⟩
  · exact ⟨_, .entry rfl hvariables hout nofun, .path rfl⟩

/-- A file with an empty table where a truth value is wanted. -/
def emptyTable : File :=
  ⟨"apidoc.json".toList, Text.encode "\x7b\"strict\": \x7b\x7d\x7d".toList⟩

theorem default_under_empty_table :
    ¬ ∀ (file : Option File) (env : Environment) (o : Overrides) (s : Settings) (v : Value),
      DistinctNames env → ofOverrides o .strict = none →
        (∀ t, ¬ EnvironmentGives env .strict t) → FileGives file .strict v →
          load file env o = .ok s → toBool v = .ok s.strict := by
  intro h
  have hvariables : ∀ t, ¬ EnvironmentGives [] .strict t := by
    rintro t ⟨name, hmem, -⟩
    cases hmem
  have hgives : FileGives (some emptyTable) .strict (.table []) :=
    ⟨_, rfl, [], "strict".toList, [], rfl, rfl, List.forall_mem_nil _⟩
  have hload : load (some emptyTable) [] {} = .ok ⟨false, .markdown, none⟩ := by
    decide +kernel
  cases h _ [] {} _ _ List.nodup_nil rfl hvariables hgives hload

end Settings
end EndpointDocs
