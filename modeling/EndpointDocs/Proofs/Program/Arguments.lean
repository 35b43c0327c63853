import EndpointDocs.Program.Arguments
import Mathlib.Data.List.Basic

/-!
# Options anywhere

A command line is put together from parts: inputs, and options each with its value.  Whatever the
order of the parts and however the options are spelled, it asks for the values of its options and
for its inputs in their order.  An option that is given twice is reported.

## Values that are looked at late

The reader looks at a value only when the part behind it begins.  What it has taken so far is
therefore the arguments that it would come to if the command line ended here, and one part changes
these in the same way wherever it stands.
-/

namespace EndpointDocs
namespace Arguments

/-- The ways to write an option and its value: `-o V`, `--out V` and `--out=V`. -/
inductive Spelling where
  | short | long | joined

/-- A part of a command line: an option with its value, the strict option, which may stand alone, or
an input. -/
inductive Part where
  | valued (option : Valued) (spelling : Spelling) (value : Text)
  | strict (value : Option Bool)
  | input (t : Path)

inductive Name where
  | valued (option : Valued)
  | strict
deriving DecidableEq

def Valued.letter : Valued → Char
  | out => 'o'
  | format => 'f'

def Valued.text : Valued → Text
  | out => "out".toList
  | format => "format".toList

/-- The texts that cannot be taken for an option or for nothing. -/
def IsPlain (t : Text) : Prop :=
  t ≠ [] ∧ t.head? ≠ some '-'

instance (t : Text) : Decidable (IsPlain t) :=
  inferInstanceAs (Decidable (t ≠ [] ∧ t.head? ≠ some '-'))

namespace Part

/-- A part as it stands on the command line. -/
def written : Part → List Text
  | valued option .short value => [['-', option.letter], value]
  | valued option .long value => ['-' :: '-' :: option.text, value]
  | valued option .joined value => ['-' :: '-' :: (option.text ++ '=' :: value)]
  | strict none => ["--strict".toList]
  | strict (some true) => ["--strict=true".toList]
  | strict (some false) => ["--strict=false".toList]
  | input t => [t]

def name? : Part → Option Name
  | valued option _ _ => some (.valued option)
  | strict _ => some .strict
  | input _ => none

/-- The value that a part gives to this option. -/
def value? (option : Valued) : Part → Option Text
  | valued other _ value => if other = option then some value else none
  | _ => none

def strict? : Part → Option Bool
  | strict value => some (value.getD true)
  | _ => none

def input? : Part → Option Path
  | input t => some t
  | _ => none

def IsPlain : Part → Prop
  | valued _ _ value => Arguments.IsPlain value
  | strict _ => True
  | input t => Arguments.IsPlain t

instance : DecidablePred IsPlain
  | valued _ _ value => inferInstanceAs (Decidable (Arguments.IsPlain value))
  | strict _ => inferInstanceAs (Decidable True)
  | input t => inferInstanceAs (Decidable (Arguments.IsPlain t))

end Part

/-- Whether an option has been set. -/
def gives (a : Arguments) : Name → Bool
  | .valued .out => a.out.isSome
  | .valued .format => a.format.isSome
  | .strict => a.strict.isSome

/-- The arguments with what a part asks for. -/
def having (a : Arguments) : Part → Arguments
  | .valued .out _ value => { a with out := some value }
  | .valued .format _ value => { a with format := some value }
  | .strict value => { a with strict := some (value.getD true) }
  | .input t => { a with inputs := a.inputs ++ [t] }

/-- Takes one more part, unless it gives an option that has been set. -/
def takePart (a : Arguments) (part : Part) : Except ArgumentError Arguments :=
  if part.name?.any a.gives then .error .repeatedOption else .ok (a.having part)

def takeParts (a : Arguments) : List Part → Except ArgumentError Arguments
  | [] => .ok a
  | part :: rest => (a.takePart part).bind fun b => takeParts b rest

/-!
# Single arguments
-/

theorem Item.ofText_of_isPlain {t : Text} (h : IsPlain t) : ofText t = .plain t := by
  cases t with
  | nil =>
      exact absurd rfl h.left
  | cons c rest =>
      have hc : c ≠ '-' := fun heq => h.right (congrArg some heq)
      unfold ofText
      split
      · next heq => simp_all
      · next heq => simp_all
      · next heq => simp_all
      · rfl

theorem Item.ofText_short (option : Valued) :
    ofText ['-', option.letter] = .valued option none := by
  cases option <;> rfl

theorem Item.ofText_long (option : Valued) :
    ofText ('-' :: '-' :: option.text) = .valued option none := by
  cases option <;> rfl

theorem Item.ofText_joined (option : Valued) (value : Text) :
    ofText ('-' :: '-' :: (option.text ++ '=' :: value)) = .valued option (some value) := by
  cases option <;> rfl

theorem run_cons {t : Text} {item : Item} (h : Item.ofText t = item) (hne : item ≠ .terminator)
    (p : Progress) (rest : List Text) :
    p.run (t :: rest) = (p.step item).bind fun p' => p'.run rest := by
  rw [Progress.run, h]
  cases item with
  | terminator => exact absurd rfl hne
  | help | valued | strict | plain | refused => rfl

/-!
# One part

What matters of the progress is what it settles to, as long as no option waits for its value.
-/

namespace Progress

/-- Whether no option waits for the next argument as its value. -/
def IsReady (p : Progress) : Prop :=
  ∀ option, p.pending ≠ .awaited option

/-- Reading these arguments first comes to the settled arguments `r`, or ends with an error that `r`
is. -/
inductive Reaches (p : Progress) (args : List Text) (r : Except ArgumentError Arguments) : Prop
  | going (p' : Progress) : p'.IsReady → p'.settle = r →
      (∀ rest, p.run (args ++ rest) = p'.run rest) → Reaches p args r
  | stopped (error : ArgumentError) : r = .error error →
      (∀ rest, p.run (args ++ rest) = .error error) → Reaches p args r

variable {p : Progress}

theorem reaches_of_run {args : List Text} {r : Except ArgumentError Arguments}
    {next : Arguments → Progress} (hready : ∀ a, (next a).IsReady)
    (hrun : ∀ rest, p.run (args ++ rest) = (r.map next).bind fun p' => p'.run rest) :
    p.Reaches args (r.bind fun a => (next a).settle) := by
  cases r with
  | error error => exact .stopped error rfl hrun
  | ok a => exact .going (next a) (hready a) rfl hrun

theorem reaches_of_step {t : Text} {item : Item} (h : Item.ofText t = item)
    (hne : item ≠ .terminator) {r : Except ArgumentError Arguments}
    {next : Arguments → Progress} (hstep : p.step item = r.map next)
    (hready : ∀ a, (next a).IsReady) : p.Reaches [t] (r.bind fun a => (next a).settle) := by
  apply reaches_of_run hready
  intro rest
  rw [List.singleton_append, run_cons h hne, hstep]

/-- A step that leaves no value to look at comes to the arguments it has set. -/
theorem reaches_of_settled {t : Text} {item : Item} (h : Item.ofText t = item)
    (hne : item ≠ .terminator) {r : Except ArgumentError Arguments}
    (hstep : p.step item = r.map fun a => ⟨a, .nothing⟩) : p.Reaches [t] r := by
  have hreaches := reaches_of_step h hne hstep fun _ => nofun
  have hbind : (r.bind fun a => settle ⟨a, .nothing⟩) = r := by
    cases r <;> rfl
  rwa [hbind] at hreaches

theorem set_eq_takePart (a : Arguments) (option : Valued) (spelling : Spelling) {value : Text}
    (h : Arguments.IsPlain value) :
    a.set option value = a.takePart (.valued option spelling value) := by
  have hempty : value.isEmpty = false := by
    simpa using h.left
  cases option with
  | out =>
      rw [set, hempty]
      rfl
  | format =>
      rfl

theorem reaches_awaited {t value : Text} {option : Valued}
    (h : Item.ofText t = .valued option none) (hvalue : Arguments.IsPlain value) :
    p.Reaches [t, value] (p.settle.bind fun a => a.set option value) := by
  have hplain := Item.ofText_of_isPlain hvalue
  have hready : ∀ a : Arguments, IsReady ⟨a, .given option value⟩ := fun _ => nofun
  apply reaches_of_run hready
  intro rest
  rw [List.cons_append, run_cons h nofun, step]
  cases p.settle with
  | error error => rfl
  | ok a => exact run_cons hplain nofun _ rest

theorem reaches_valued (option : Valued) (spelling : Spelling) {value : Text}
    (h : Arguments.IsPlain value) :
    p.Reaches (Part.valued option spelling value).written
      (p.settle.bind fun a => a.takePart (.valued option spelling value)) := by
  simp only [← set_eq_takePart _ option spelling h]
  cases spelling with
  | short =>
      exact reaches_awaited (Item.ofText_short option) h
  | long =>
      exact reaches_awaited (Item.ofText_long option) h
  | joined =>
      exact reaches_of_settled (Item.ofText_joined option value) nofun rfl

theorem addInputs_append (a : Arguments) (values : List Path) {t : Path} (ht : t ≠ []) :
    a.addInputs (values ++ [t]) = (a.addInputs values).bind fun b => b.takePart (.input t) := by
  have hempty : t.isEmpty = false := by
    simpa using ht
  rw [addInputs, addInputs, List.any_append]
  cases values.any List.isEmpty with
  | true => rfl
  | false => simp [hempty, takePart, Part.name?, having, Except.bind]

theorem reaches_input (hready : p.IsReady) {t : Path} (ht : Arguments.IsPlain t) :
    p.Reaches [t] (p.settle.bind fun a => a.takePart (.input t)) := by
  have hplain := Item.ofText_of_isPlain ht
  have hfirst : ∀ a : Arguments, a.addInputs [t] = a.takePart (.input t) := by
    intro a
    have hadd := addInputs_append a [] ht.left
    have hnone : a.addInputs [] = .ok a := by
      simp [addInputs]
    rw [hnone] at hadd
    exact hadd
  cases hpending : p.pending with
  | awaited option =>
      exact absurd hpending (hready option)
  | inputs values =>
      have hstep : p.step (.plain t) =
          (Except.ok p.accepted).map fun a => ⟨a, .inputs (values ++ [t])⟩ := by
        simp [step, takeInput, hpending, Except.map]
      have hsettle : (p.settle.bind fun a => a.takePart (.input t)) =
          p.accepted.addInputs (values ++ [t]) := by
        rw [settle, hpending]
        exact (addInputs_append p.accepted values ht.left).symm
      rw [hsettle]
      exact reaches_of_step hplain nofun hstep fun _ => nofun
  | nothing | given =>
      have hstep : p.step (.plain t) = p.settle.map fun a => ⟨a, .inputs [t]⟩ := by
        simp [step, takeInput, hpending]
      simp only [← hfirst]
      exact reaches_of_step hplain nofun hstep fun _ => nofun

theorem reaches_strict {t : Text} {value : Option Text} {b : Bool}
    (h : Item.ofText t = .strict value) (hvalue : truth? value = some b) :
    p.Reaches [t] (p.settle.bind fun a => a.takePart (.strict (some b))) := by
  have hset : ∀ a : Arguments, a.setStrict value = a.takePart (.strict (some b)) := by
    intro a
    rw [setStrict, hvalue]
    rfl
  apply reaches_of_settled h nofun
  rw [step]
  simp only [hset]

theorem reaches_part (hready : p.IsReady) {part : Part} (hpart : part.IsPlain) :
    p.Reaches part.written (p.settle.bind fun a => a.takePart part) := by
  cases part with
  | valued option spelling value =>
      exact reaches_valued option spelling hpart
  | strict value =>
      cases value with
      | none =>
          exact reaches_strict rfl rfl
      | some b =>
          cases b with
          | true =>
              exact reaches_strict rfl rfl
          | false =>
              exact reaches_strict rfl rfl
  | input t =>
      exact reaches_input hready hpart

theorem settle_run_parts (hready : p.IsReady) {parts : List Part}
    (hparts : ∀ part ∈ parts, part.IsPlain) :
    (p.run (parts.flatMap Part.written)).bind settle =
      p.settle.bind fun a => a.takeParts parts := by
  induction parts generalizing p with
  | nil =>
      change p.settle = _
      cases p.settle <;> rfl
  | cons part rest ih =>
      have hbind : (p.settle.bind fun a => a.takeParts (part :: rest)) =
          (p.settle.bind fun a => a.takePart part).bind fun b => b.takeParts rest := by
        cases p.settle <;> rfl
      rw [List.flatMap_cons, hbind]
      cases reaches_part hready (hparts part (by simp)) with
      | going p' hready' hsettle hrun =>
          rw [hrun, ih hready' fun later hlater => hparts later (by simp [hlater]), hsettle]
      | stopped error hsettle hrun =>
          rw [hrun, hsettle]
          rfl

end Progress

/-!
# All parts

Each option is set by the first part that gives it.  A second part that gives it is refused,
whatever stands between the two.
-/

/-- Whether `b` is `a` with what the parts ask for: each option once at most, the inputs in
order. -/
structure Adds (a : Arguments) (parts : List Part) (b : Arguments) : Prop where
  out_eq : b.out.toList = a.out.toList ++ parts.filterMap (Part.value? .out)
  format_eq : b.format.toList = a.format.toList ++ parts.filterMap (Part.value? .format)
  strict_eq : b.strict.toList = a.strict.toList ++ parts.filterMap Part.strict?
  inputs_eq : b.inputs = a.inputs ++ parts.filterMap Part.input?

theorem eq_none_of_toList_eq {α : Type} {before after : Option α} {x : α} {later : List α}
    (h : after.toList = before.toList ++ x :: later) : before = none := by
  cases before with
  | none =>
      rfl
  | some y =>
      cases after <;> simp at h

theorem eq_of_toList_eq {α : Type} {o o' : Option α} (h : o.toList = o'.toList) : o = o' := by
  cases o <;> cases o' <;> simp_all

theorem Adds.eq_of_nil {a b : Arguments} (h : Adds a [] b) : a = b := by
  have hout : b.out = a.out := eq_of_toList_eq (by simpa using h.out_eq)
  have hformat : b.format = a.format := eq_of_toList_eq (by simpa using h.format_eq)
  have hstrict : b.strict = a.strict := eq_of_toList_eq (by simpa using h.strict_eq)
  have hinputs : b.inputs = a.inputs := by simpa using h.inputs_eq
  cases a
  cases b
  simp_all

theorem Adds.takePart_eq {a b : Arguments} {part : Part} {rest : List Part}
    (h : Adds a (part :: rest) b) : a.takePart part = .ok (a.having part) := by
  have hfree : part.name?.any a.gives = false := by
    cases part with
    | valued option spelling value =>
        cases option with
        | out => simp [Part.name?, gives, eq_none_of_toList_eq h.out_eq]
        | format => simp [Part.name?, gives, eq_none_of_toList_eq h.format_eq]
    | strict value => simp [Part.name?, gives, eq_none_of_toList_eq h.strict_eq]
    | input t => rfl
  rw [takePart, hfree]
  rfl

theorem Adds.having {a b : Arguments} {part : Part} {rest : List Part}
    (h : Adds a (part :: rest) b) : Adds (a.having part) rest b := by
  rcases h with ⟨hout, hformat, hstrict, hinputs⟩
  cases part with
  | valued option spelling value =>
      cases option with
      | out =>
          refine ⟨?_, hformat, hstrict, hinputs⟩
          simpa [Arguments.having, Part.value?, eq_none_of_toList_eq hout] using hout
      | format =>
          refine ⟨hout, ?_, hstrict, hinputs⟩
          simpa [Arguments.having, Part.value?, eq_none_of_toList_eq hformat] using hformat
  | strict value =>
      refine ⟨hout, hformat, ?_, hinputs⟩
      simpa [Arguments.having, Part.strict?, eq_none_of_toList_eq hstrict] using hstrict
  | input t =>
      refine ⟨hout, hformat, hstrict, ?_⟩
      simpa [Arguments.having, Part.input?] using hinputs

theorem Adds.takeParts_eq {a b : Arguments} {parts : List Part} (h : Adds a parts b) :
    a.takeParts parts = .ok b := by
  induction parts generalizing a with
  | nil =>
      rw [takeParts, h.eq_of_nil]
  | cons part rest ih =>
      rw [takeParts, h.takePart_eq]
      exact ih h.having

theorem gives_having (a : Arguments) (part : Part) (name : Name) :
    (a.having part).gives name = (a.gives name || part.name? == some name) := by
  rcases part with ⟨_ | _, _, _⟩ | _ | _ <;> rcases name with (_ | _) | _ <;>
    simp [Arguments.having, gives, Part.name?]

theorem takeParts_of_repeated {a : Arguments} {parts : List Part}
    (h : (∃ name ∈ parts.filterMap Part.name?, a.gives name = true) ∨
      ¬ (parts.filterMap Part.name?).Nodup) :
    a.takeParts parts = .error .repeatedOption := by
  induction parts generalizing a with
  | nil =>
      simp at h
  | cons part rest ih =>
      rw [takeParts, takePart]
      cases hfree : part.name?.any a.gives with
      | true =>
          rfl
      | false =>
          apply ih
          cases hname : part.name? with
          | none =>
              simpa [hname, gives_having] using h
          | some name =>
              have hnew : a.gives name = false := by
                simpa [hname] using hfree
              rw [List.filterMap_cons_some hname, List.nodup_cons] at h
              by_cases hmem : name ∈ rest.filterMap Part.name?
              · exact Or.inl ⟨name, hmem, by simp [gives_having, hname]⟩
              · rcases h with ⟨other, hother, hgives⟩ | hdup
                · rcases List.mem_cons.mp hother with rfl | hlater
                  · rw [hnew] at hgives
                    cases hgives
                  · exact Or.inl ⟨other, hlater, by simp [gives_having, hgives]⟩
                · exact Or.inr fun hnodup => hdup ⟨hmem, hnodup⟩

/-- Options may stand anywhere and be spelled in any way: the reader comes to what the parts ask
for, and to an error if they give an option twice. -/
theorem read_any_arrangement {parts : List Part} (hparts : ∀ part ∈ parts, part.IsPlain) :
    (∀ a : Arguments, Adds {} parts a → a.inputs ≠ [] →
      read (parts.flatMap Part.written) = .ok a) ∧
    (¬ (parts.filterMap Part.name?).Nodup →
      read (parts.flatMap Part.written) = .error .repeatedOption) := by
  have hready : Progress.IsReady {} := nofun
  have hsettle : ((Progress.run {} (parts.flatMap Part.written)).bind Progress.settle) =
      takeParts {} parts :=
    Progress.settle_run_parts hready hparts
  constructor
  · intro a ha hinputs
    have hinputs' : a.inputs.isEmpty = false := by
      simpa using hinputs
    rw [read, hsettle, ha.takeParts_eq]
    simp [hinputs']
  · intro hrepeated
    rw [read, hsettle, takeParts_of_repeated (Or.inr hrepeated)]

theorem read_any_arrangement_threeInputs :
    read ["a.go".toList, "--strict".toList, "b.go".toList, "--format=html".toList, "-o".toList,
        "api.html".toList, "c.go".toList] =
      .ok ⟨some "api.html".toList, some true, some "html".toList,
        ["a.go".toList, "b.go".toList, "c.go".toList]⟩ ∧
    read ["--out=x".toList, "a.go".toList, "-o".toList, "y".toList] = .error .repeatedOption := by
  constructor
  · have hparts : ∀ part ∈ [Part.input "a.go".toList, .strict none, .input "b.go".toList,
        .valued .format .joined "html".toList, .valued .out .short "api.html".toList,
        .input "c.go".toList], part.IsPlain := by
      decide
    exact (read_any_arrangement hparts).left _ ⟨rfl, rfl, rfl, rfl⟩ (by decide)
  · have hparts : ∀ part ∈ [Part.valued .out .joined "x".toList, .input "a.go".toList,
        .valued .out .short "y".toList], part.IsPlain := by
      decide
    exact (read_any_arrangement hparts).right (by decide)

end Arguments
end EndpointDocs
