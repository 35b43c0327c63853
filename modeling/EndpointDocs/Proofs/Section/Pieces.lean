import EndpointDocs.Section.Fields
import Mathlib.Data.List.TakeWhile

/-!
# Sections as pieces of a body

A section names its lines by number.  What an endpoint takes from it are the lines themselves, so
the sections of a body are the same as its pieces: a line that opens a section, with the lines up to
the next that opens one.  Reading a body is going through its pieces from left to right.
-/

namespace EndpointDocs
namespace Section

/-!
# Looking ahead

A section that is open stays open up to the next line that opens one, so its end can be told when
it is opened.
-/

/-- The sections of lines of which the first has the number `n`, each told at its first line. -/
def sectionsFrom (opening : Text → Option Keyword) (n : Nat) : List Text → List Section
  | [] => []
  | line :: rest =>
      match opening line with
      | none => sectionsFrom opening (n + 1) rest
      | some k =>
          ⟨k, n, n + 1 + (rest.takeWhile fun l => (opening l).isNone).length⟩ ::
            sectionsFrom opening (n + 1) rest

theorem clusterFrom_eq_closed_append (opening : Text → Option Keyword)
    (current : Option (Keyword × Nat)) (n : Nat) (body : List Text) :
    clusterFrom opening current n body =
      closed (n + (body.takeWhile fun l => (opening l).isNone).length) current ++
        sectionsFrom opening n body := by
  induction body generalizing current n with
  | nil =>
      exact (List.append_nil _).symm
  | cons line rest ih =>
      rw [clusterFrom, sectionsFrom]
      cases hline : opening line with
      | none =>
          have hinner : ((line :: rest).takeWhile fun l => (opening l).isNone).length =
              1 + (rest.takeWhile fun l => (opening l).isNone).length := by
            rw [List.takeWhile_cons_of_pos (by simp [hline]), List.length_cons, Nat.add_comm]
          rw [hinner, ← Nat.add_assoc]
          exact ih current (n + 1)
      | some k =>
          have hinner : (line :: rest).takeWhile (fun l => (opening l).isNone) = [] :=
            List.takeWhile_cons_of_neg (by simp [hline])
          rw [hinner]
          dsimp only
          rw [ih]
          rfl

theorem cluster_eq_sectionsFrom (opening : Text → Option Keyword) (body : List Text) :
    cluster opening body = sectionsFrom opening 0 body :=
  clusterFrom_eq_closed_append opening none 0 body

/-!
# Pieces
-/

/-- The keywords and the lines of the sections of a body. -/
def pieces (opening : Text → Option Keyword) : List Text → List (Keyword × List Text)
  | [] => []
  | line :: rest =>
      match opening line with
      | none => pieces opening rest
      | some k => (k, line :: rest.takeWhile fun l => (opening l).isNone) :: pieces opening rest

theorem map_sectionsFrom (opening : Text → Option Keyword) (before body : List Text) :
    ((sectionsFrom opening before.length body).map fun s =>
      (s.keyword, s.lines (before ++ body))) = pieces opening body := by
  induction body generalizing before with
  | nil =>
      rfl
  | cons line rest ih =>
      have hnext := ih (before ++ [line])
      rw [List.length_append, List.length_singleton, List.append_assoc,
        List.singleton_append] at hnext
      rw [sectionsFrom, pieces]
      cases hline : opening line with
      | none =>
          exact hnext
      | some k =>
          let inner := rest.takeWhile fun l => (opening l).isNone
          have htake : rest.take inner.length = inner :=
            (List.prefix_iff_eq_take.mp (List.takeWhile_prefix _)).symm
          have hlength : before.length + 1 + inner.length - before.length = inner.length + 1 := by
            omega
          have hsection : Section.lines ⟨k, before.length, before.length + 1 + inner.length⟩
              (before ++ line :: rest) = line :: inner := by
            rw [lines, List.drop_left, hlength, List.take_succ_cons, htake]
          rw [List.map_cons, hnext]
          exact congrArg (fun ls => (k, ls) :: pieces opening rest) hsection

theorem map_cluster (opening : Text → Option Keyword) (body : List Text) :
    ((cluster opening body).map fun s => (s.keyword, s.lines body)) = pieces opening body := by
  rw [cluster_eq_sectionsFrom]
  exact map_sectionsFrom opening [] body

/-!
# Bodies put together from pieces
-/

/-- Whether a keyword and lines are a whole section: the first line opens it, and no other line
opens one. -/
def IsPiece (opening : Text → Option Keyword) (piece : Keyword × List Text) : Prop :=
  ∃ first inner, piece.2 = first :: inner ∧ opening first = some piece.1 ∧
    ∀ l ∈ inner, opening l = none

theorem pieces_cons {opening : Text → Option Keyword} {line : Text} {k : Keyword}
    (h : opening line = some k) (rest : List Text) :
    pieces opening (line :: rest) =
      (k, line :: rest.takeWhile fun l => (opening l).isNone) :: pieces opening rest := by
  rw [pieces, h]

theorem pieces_append_of_none {opening : Text → Option Keyword} {front : List Text}
    (h : ∀ l ∈ front, opening l = none) (rest : List Text) :
    pieces opening (front ++ rest) = pieces opening rest := by
  induction front with
  | nil =>
      rfl
  | cons line later ih =>
      have hline : opening line = none := h line (by simp)
      rw [List.cons_append, pieces, hline]
      exact ih fun l hl => h l (by simp [hl])

theorem pieces_flatMap {opening : Text → Option Keyword} {ps : List (Keyword × List Text)}
    (h : ∀ p ∈ ps, IsPiece opening p) : pieces opening (ps.flatMap Prod.snd) = ps := by
  induction ps with
  | nil =>
      rfl
  | cons p rest ih =>
      rcases h p (by simp) with ⟨first, inner, hlines, hfirst, hinner⟩
      have hrest : ∀ q ∈ rest, IsPiece opening q := fun q hq => h q (by simp [hq])
      have hnone : ∀ l ∈ inner, (opening l).isNone = true := by
        intro l hl
        rw [hinner l hl]
        rfl
      have hnext : (rest.flatMap Prod.snd).takeWhile (fun l => (opening l).isNone) = [] := by
        cases rest with
        | nil =>
            rfl
        | cons q later =>
            rcases hrest q (by simp) with ⟨head, others, hq, hhead, -⟩
            rw [List.flatMap_cons, hq, List.cons_append]
            simp [hhead]
      rw [List.flatMap_cons, hlines, List.cons_append, pieces_cons hfirst,
        List.takeWhile_append_of_pos hnone, hnext, List.append_nil, ← hlines,
        pieces_append_of_none hinner, ih hrest]

/-!
# Bodies taken apart into pieces
-/

theorem isPiece_of_mem_pieces {opening : Text → Option Keyword} {body : List Text}
    {p : Keyword × List Text} (h : p ∈ pieces opening body) : IsPiece opening p := by
  induction body with
  | nil =>
      cases h
  | cons line rest ih =>
      cases hline : opening line with
      | none =>
          rw [pieces, hline] at h
          exact ih h
      | some k =>
          rw [pieces_cons hline] at h
          rcases List.mem_cons.mp h with hp | hrest
          · refine ⟨line, rest.takeWhile fun l => (opening l).isNone, by rw [hp], by rw [hp, hline], ?_⟩
            intro l hl
            simpa using List.mem_takeWhile_imp hl
          · exact ih hrest

/-- A body is the lines before its first section and the lines of its sections. -/
theorem takeWhile_append_flatMap_pieces (opening : Text → Option Keyword) (body : List Text) :
    (body.takeWhile fun l => (opening l).isNone) ++ (pieces opening body).flatMap Prod.snd =
      body := by
  induction body with
  | nil =>
      rfl
  | cons line rest ih =>
      cases hline : opening line with
      | none =>
          rw [pieces, hline, List.takeWhile_cons_of_pos (by simp [hline]), List.cons_append]
          exact congrArg (line :: ·) ih
      | some k =>
          rw [pieces_cons hline, List.takeWhile_cons_of_neg (by simp [hline]), List.nil_append,
            List.flatMap_cons, List.cons_append]
          exact congrArg (line :: ·) ih

theorem mem_of_mem_piece {opening : Text → Option Keyword} {body : List Text}
    {p : Keyword × List Text} (hp : p ∈ pieces opening body) {l : Text} (hl : l ∈ p.2) :
    l ∈ body := by
  rw [← takeWhile_append_flatMap_pieces opening body]
  exact List.mem_append_right _ (List.mem_flatMap.mpr ⟨p, hp, hl⟩)

/-- A body has a section of a kind if one of its lines opens one. -/
theorem exists_piece_iff {opening : Text → Option Keyword} {body : List Text} {k : Keyword} :
    (∃ p ∈ pieces opening body, p.1 = k) ↔ ∃ l ∈ body, opening l = some k := by
  constructor
  · rintro ⟨p, hp, hk⟩
    rcases isPiece_of_mem_pieces hp with ⟨first, inner, hlines, hfirst, -⟩
    refine ⟨first, mem_of_mem_piece hp (by simp [hlines]), ?_⟩
    rw [hfirst, hk]
  · rintro ⟨l, hl, hopen⟩
    induction body with
    | nil =>
        cases hl
    | cons line rest ih =>
        rcases List.mem_cons.mp hl with rfl | hrest
        · rw [pieces_cons hopen]
          exact ⟨_, List.mem_cons_self, rfl⟩
        · rcases ih hrest with ⟨p, hp, hk⟩
          cases hline : opening line with
          | none =>
              rw [pieces, hline]
              exact ⟨p, hp, hk⟩
          | some other =>
              rw [pieces_cons hline]
              exact ⟨p, List.mem_cons_of_mem _ hp, hk⟩

end Section

/-!
# Reading pieces
-/

namespace Endpoint

/-- Adds to an endpoint what pieces say, up to the first malformed one. -/
def withPieces (e : Endpoint) : List (Keyword × List Text) → Except SectionError Endpoint
  | [] => .ok e
  | p :: rest =>
      match e.withSection p.1 p.2 with
      | .ok e' => withPieces e' rest
      | .error problem => .error problem

theorem withSections_eq_withPieces (body : List Text) (e : Endpoint) (ss : List Section) :
    withSections body e ss = e.withPieces (ss.map fun s => (s.keyword, s.lines body)) := by
  induction ss generalizing e with
  | nil =>
      rfl
  | cons s rest ih =>
      rw [withSections, List.map_cons, withPieces]
      cases e.withSection s.keyword (s.lines body) with
      | ok e' => exact ih e'
      | error problem => rfl

theorem ofBody_eq_withPieces (name body : Text) :
    ofBody name body =
      withPieces { name } (Section.pieces Keyword.ofLine? (Text.lines body)) := by
  rw [ofBody, withSections_eq_withPieces, Section.map_cluster]

theorem withPieces_cons_of_ok {e e' : Endpoint} {p : Keyword × List Text}
    (h : e.withSection p.1 p.2 = .ok e') (rest : List (Keyword × List Text)) :
    e.withPieces (p :: rest) = e'.withPieces rest := by
  rw [withPieces, h]

end Endpoint
end EndpointDocs
