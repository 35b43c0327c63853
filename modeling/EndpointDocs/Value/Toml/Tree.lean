import EndpointDocs.Value.Basic

/-!
# Tables that are being built

A TOML document adds to tables piece by piece.  Whether a table may still be added to depends on how
it came about: by a header of its own, by the header of a table inside it, or by a dotted key.

## Rules

No key is given twice.  A header may name a table that so far only stands in the headers of others.
A dotted key may only add to tables that came about by dotted keys.
-/

namespace EndpointDocs
namespace Toml

/-- How a table came about. -/
inductive Origin where
  | header | implied | dotted
deriving DecidableEq, Repr

/-- What a key stands for. -/
inductive Node where
  | value (v : Value)
  | table (origin : Origin) (entries : List (Text × Node))
  | tables (earlier : List (List (Text × Node))) (last : List (Text × Node))
deriving Inhabited

abbrev Entries := List (Text × Node)

/-- Changes the table at the end of a path, and makes the tables on the way that are missing. -/
def change (byDottedKey : Bool) (f : Origin → Entries → Option Entries) :
    List Text → Origin → Entries → Option Entries
  | [], origin, entries => f origin entries
  | key :: path, _, entries =>
      match entries.lookup key with
      | none =>
          let origin := if byDottedKey then Origin.dotted else Origin.implied
          (change byDottedKey f path origin []).map fun es => entries ++ [(key, .table origin es)]
      | some (.value _) => none
      | some (.table origin es) =>
          if byDottedKey && origin == .header then none
          else (change byDottedKey f path origin es).map fun es => replace key (.table origin es) entries
      | some (.tables earlier last) =>
          (change byDottedKey f path .header last).map fun es =>
            replace key (.tables earlier es) entries
where
  /-- Gives a key that is there another node. -/
  replace (key : Text) (node : Node) (entries : Entries) : Entries :=
    entries.map fun entry => if entry.1 = key then (key, node) else entry

/-- Gives a key that is not there a value, in the table at the end of a dotted path. -/
def insert (path : List Text) (key : Text) (v : Value) (origin : Origin) (entries : Entries) :
    Option Entries :=
  change true
    (fun origin entries =>
      if decide (origin = .dotted) == path.isEmpty || (entries.lookup key).isSome then none
      else some (entries ++ [(key, .value v)]))
    path origin entries

/-- Opens a table by its header. -/
def openTable (path : List Text) (key : Text) (entries : Entries) : Option Entries :=
  change false
    (fun _ entries =>
      match entries.lookup key with
      | none => some (entries ++ [(key, .table .header [])])
      | some (.table .implied es) => some (change.replace key (.table .header es) entries)
      | some _ => none)
    path .header entries

/-- Opens the next table of a list by its header. -/
def openElement (path : List Text) (key : Text) (entries : Entries) : Option Entries :=
  change false
    (fun _ entries =>
      match entries.lookup key with
      | none => some (entries ++ [(key, .tables [] [])])
      | some (.tables earlier last) =>
          some (change.replace key (.tables (earlier ++ [last]) []) entries)
      | some _ => none)
    path .header entries

mutual

def Node.toValue : Node → Value
  | .value v => v
  | .table _ entries => .table (valuesOf entries)
  | .tables earlier last => .list (tablesOf earlier ++ [.table (valuesOf last)])
termination_by structural node => node

def valuesOf : List (Text × Node) → List (Text × Value)
  | [] => []
  | (key, node) :: rest => (key, node.toValue) :: valuesOf rest
termination_by structural entries => entries

def tablesOf : List (List (Text × Node)) → List Value
  | [] => []
  | entries :: rest => .table (valuesOf entries) :: tablesOf rest
termination_by structural tables => tables

end

end Toml
end EndpointDocs
