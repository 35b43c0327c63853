import EndpointDocs.Proofs.Text.Ends
import EndpointDocs.Proofs.Text.Lines
import EndpointDocs.Section.RequestLine

/-!
# Finding request lines

A request begins a text with a verb, one or more blanks and a path.  No verb begins another, so of
the nine only the one that is written can be found there.  A search goes from place to place, so it
gives the request at the least of all places at which one stands, and nothing if there is none.

## URLs

Whatever line a URL is found in, it begins with a slash, stands on one line and has no blanks at its
end.  Written behind a verb and a space, it is found again.
-/

namespace EndpointDocs
namespace RequestLine

/-- A request begins a text: its verb, one or more blanks and a path, of which the URL is the first
line without the blanks at its end. -/
def Begins (r : RequestLine) (t : Text) : Prop :=
  ∃ blanks path line, t = r.verb.text ++ (blanks ++ '/' :: path) ∧ blanks ≠ [] ∧
    (∀ c ∈ blanks, Text.isBlank c = true) ∧ (Text.lines ('/' :: path)).head? = some line ∧
    r.url = Text.trimEnd line

/-- A request stands at a place of a text, the number of the characters before it. -/
def StandsAt (t : Text) (place : Nat) (r : RequestLine) : Prop :=
  ∃ front back, t = front ++ back ∧ front.length = place ∧ r.Begins back

/-- Of all places of a text at which a request stands, this one stands at the least. -/
def IsLeftmost (t : Text) (r : RequestLine) : Prop :=
  ∃ place, StandsAt t place r ∧ ∀ other q, StandsAt t other q → place ≤ other

/-!
# Paths behind blanks
-/

theorem path?_eq_some_iff {t url : Text} :
    path? t = some url ↔
      ∃ blanks path line, t = blanks ++ '/' :: path ∧ blanks ≠ [] ∧
        (∀ c ∈ blanks, Text.isBlank c = true) ∧ (Text.lines ('/' :: path)).head? = some line ∧
        url = Text.trimEnd line := by
  constructor
  · intro h
    cases t with
    | nil =>
        cases h
    | cons c rest =>
        rw [path?] at h
        split at h
        · next hc =>
            split at h
            · next path hstart =>
                injection h with h
                refine ⟨c :: rest.takeWhile Text.isBlank, path, _, ?_, by simp, ?_,
                  Text.head?_lines _, ?_⟩
                · rw [List.cons_append, ← hstart]
                  exact congrArg (c :: ·) List.takeWhile_append_dropWhile.symm
                · intro d hd
                  rcases List.mem_cons.mp hd with rfl | hd
                  · exact hc
                  · exact List.mem_takeWhile_imp hd
                · exact h.symm
            · cases h
        · cases h
  · intro h
    rcases h with ⟨blanks, path, line, rfl, hne, hblanks, hline, rfl⟩
    cases blanks with
    | nil =>
        exact absurd rfl hne
    | cons c rest =>
        have hc : Text.isBlank c = true := hblanks c (by simp)
        have hrest : ∀ d ∈ rest, Text.isBlank d = true := fun d hd => hblanks d (by simp [hd])
        have hstart : Text.trimStart (rest ++ '/' :: path) = '/' :: path := by
          rw [Text.trimStart, List.dropWhile_append_of_pos hrest]
          rfl
        rw [Text.head?_lines] at hline
        injection hline with hline
        rw [List.cons_append, path?, if_pos hc, hstart, ← hline]
        rfl

/-!
# Requests that begin a text
-/

theorem startingWith?_eq_some_iff {verb : Verb} {t : Text} {r : RequestLine} :
    startingWith? verb t = some r ↔ r.verb = verb ∧ r.Begins t := by
  rw [startingWith?, Option.map_eq_some_iff]
  constructor
  · intro h
    rcases h with ⟨url, hurl, rfl⟩
    rcases Option.bind_eq_some_iff.mp hurl with ⟨after, hafter, hpath⟩
    rcases path?_eq_some_iff.mp hpath with ⟨blanks, path, line, rfl, hblanks⟩
    exact ⟨rfl, blanks, path, line, Text.after?_eq_some_iff.mp hafter, hblanks⟩
  · intro h
    rcases h with ⟨rfl, blanks, path, line, rfl, hblanks⟩
    refine ⟨r.url, ?_, rfl⟩
    rw [Text.after?_append, Option.bind_some]
    exact path?_eq_some_iff.mpr ⟨blanks, path, line, rfl, hblanks⟩

theorem startingWith?_of_ne {v w : Verb} (h : v ≠ w) (rest : Text) :
    startingWith? w (v.text ++ rest) = none := by
  cases v <;> cases w <;> first | exact absurd rfl h | rfl

private theorem findSome?_eq_of_unique {α β : Type} {f : α → Option β} {l : List α} {a : α}
    {b : β} (hmem : a ∈ l) (ha : f a = some b) (hother : ∀ x, a ≠ x → f x = none) :
    l.findSome? f = some b := by
  induction l with
  | nil =>
      cases hmem
  | cons x rest ih =>
      by_cases hx : a = x
      · rw [← hx, List.findSome?_cons, ha]
      · rw [List.findSome?_cons, hother x hx]
        rcases List.mem_cons.mp hmem with heq | hrest
        · exact absurd heq hx
        · exact ih hrest

theorem mem_all (verb : Verb) : verb ∈ Verb.all := by
  cases verb <;> decide

theorem atStart?_eq_some_iff {t : Text} {r : RequestLine} :
    atStart? t = some r ↔ r.Begins t := by
  constructor
  · intro h
    rcases List.exists_of_findSome?_eq_some h with ⟨verb, -, hverb⟩
    exact (startingWith?_eq_some_iff.mp hverb).right
  · intro h
    refine findSome?_eq_of_unique (mem_all r.verb) (startingWith?_eq_some_iff.mpr ⟨rfl, h⟩) ?_
    rcases h with ⟨blanks, path, line, rfl, -⟩
    intro other hne
    exact startingWith?_of_ne hne _

/-!
# The leftmost request
-/

theorem not_begins_nil (r : RequestLine) : ¬ r.Begins [] := by
  intro h
  rcases h with ⟨blanks, path, line, ht, -⟩
  simp at ht

theorem not_standsAt_nil (place : Nat) (r : RequestLine) : ¬ StandsAt [] place r := by
  intro h
  rcases h with ⟨front, back, ht, -, hbegins⟩
  rw [(List.append_eq_nil_iff.mp ht.symm).right] at hbegins
  exact not_begins_nil r hbegins

theorem standsAt_zero_iff {t : Text} {r : RequestLine} : StandsAt t 0 r ↔ r.Begins t := by
  constructor
  · intro h
    rcases h with ⟨front, back, rfl, hlength, hbegins⟩
    rwa [List.length_eq_zero_iff.mp hlength, List.nil_append]
  · intro hbegins
    exact ⟨[], t, rfl, rfl, hbegins⟩

theorem standsAt_succ_iff {c : Char} {t : Text} {place : Nat} {r : RequestLine} :
    StandsAt (c :: t) (place + 1) r ↔ StandsAt t place r := by
  constructor
  · intro h
    rcases h with ⟨front, back, ht, hlength, hbegins⟩
    cases front with
    | nil =>
        cases hlength
    | cons d rest =>
        injection ht with _ ht
        exact ⟨rest, back, ht, Nat.succ.inj hlength, hbegins⟩
  · intro h
    rcases h with ⟨front, back, rfl, rfl, hbegins⟩
    exact ⟨c :: front, back, rfl, rfl, hbegins⟩

theorem find?_eq_none_iff {t : Text} : find? t = none ↔ ∀ place r, ¬ StandsAt t place r := by
  induction t with
  | nil =>
      exact iff_of_true rfl not_standsAt_nil
  | cons c rest ih =>
      rw [find?, Option.or_eq_none_iff, ih, Option.eq_none_iff_forall_ne_some]
      constructor
      · intro h place r hstands
        rcases h with ⟨hstart, hlater⟩
        cases place with
        | zero =>
            exact hstart r (atStart?_eq_some_iff.mpr (standsAt_zero_iff.mp hstands))
        | succ place =>
            exact hlater place r (standsAt_succ_iff.mp hstands)
      · intro hnone
        constructor
        · intro r hr
          exact hnone 0 r (standsAt_zero_iff.mpr (atStart?_eq_some_iff.mp hr))
        · intro place r hstands
          exact hnone (place + 1) r (standsAt_succ_iff.mpr hstands)

theorem find?_eq_some_iff {t : Text} {r : RequestLine} : find? t = some r ↔ IsLeftmost t r := by
  induction t with
  | nil =>
      apply iff_of_false nofun
      intro h
      rcases h with ⟨place, hstands, -⟩
      exact not_standsAt_nil place r hstands
  | cons c rest ih =>
      rw [find?, Option.or_eq_some_iff, atStart?_eq_some_iff, ih]
      constructor
      · intro h
        rcases h with hbegins | ⟨hnone, place, hstands, hleast⟩
        · exact ⟨0, standsAt_zero_iff.mpr hbegins, fun _ _ _ => Nat.zero_le _⟩
        · refine ⟨place + 1, standsAt_succ_iff.mpr hstands, ?_⟩
          intro other q hq
          cases other with
          | zero =>
              rw [atStart?_eq_some_iff.mpr (standsAt_zero_iff.mp hq)] at hnone
              cases hnone
          | succ other =>
              exact Nat.succ_le_succ (hleast other q (standsAt_succ_iff.mp hq))
      · intro h
        rcases h with ⟨place, hstands, hleast⟩
        cases place with
        | zero =>
            exact Or.inl (standsAt_zero_iff.mp hstands)
        | succ place =>
            refine Or.inr ⟨?_, place, standsAt_succ_iff.mp hstands, ?_⟩
            · apply Option.eq_none_iff_forall_ne_some.mpr
              intro q hq
              have hle := hleast 0 q (standsAt_zero_iff.mpr (atStart?_eq_some_iff.mp hq))
              omega
            · intro other q hq
              exact Nat.le_of_succ_le_succ (hleast (other + 1) q (standsAt_succ_iff.mpr hq))

theorem find?_of_begins {t : Text} {r : RequestLine} (h : r.Begins t) : find? t = some r :=
  find?_eq_some_iff.mpr ⟨0, standsAt_zero_iff.mpr h, fun _ _ _ => Nat.zero_le _⟩

/-!
# URLs
-/

/-- The texts that can be found as a URL. -/
structure IsUrl (url : Text) : Prop where
  slash : url.head? = some '/'
  line : '\n' ∉ url
  trimmed : Text.trimEnd url = url

theorem Begins.isUrl {t : Text} {r : RequestLine} (h : r.Begins t) : IsUrl r.url := by
  rcases h with ⟨blanks, path, line, -, -, -, hline, hurl⟩
  rw [Text.head?_lines] at hline
  injection hline with hline
  have hslash : r.url = '/' :: Text.trimEnd (path.takeWhile (· != '\n')) := by
    rw [hurl, ← hline]
    exact Text.trimEnd_append_cons (by decide) [] _
  constructor
  · rw [hslash, List.head?_cons]
  · intro hfeed
    rw [hurl, ← hline] at hfeed
    simpa using List.mem_takeWhile_imp (Text.mem_of_mem_trimEnd hfeed)
  · rw [hurl, Text.trimEnd_trimEnd]

theorem isUrl_of_find? {t : Text} {r : RequestLine} (h : find? t = some r) : IsUrl r.url := by
  rcases find?_eq_some_iff.mp h with ⟨place, ⟨front, back, -, -, hbegins⟩, -⟩
  exact hbegins.isUrl

theorem find?_written (verb : Verb) {url : Text} (hslash : url.head? = some '/')
    (hline : '\n' ∉ url) (htrim : Text.trimEnd url = url) :
    find? (verb.text ++ ' ' :: url) = some ⟨verb, url⟩ := by
  cases url with
  | nil =>
      cases hslash
  | cons c path =>
      injection hslash with hc
      subst hc
      have hspace : ∀ d ∈ [' '], Text.isBlank d = true :=
        List.forall_mem_singleton.mpr (by decide)
      apply find?_of_begins
      refine ⟨[' '], path, '/' :: path, rfl, by simp, hspace, ?_, htrim.symm⟩
      rw [Text.lines_eq_singleton hline]
      rfl

end RequestLine
end EndpointDocs
