import EndpointDocs.Block.Marker
import EndpointDocs.Comment.PlainText
import EndpointDocs.Endpoint.Validation
import EndpointDocs.Section.Fields

/-!
# Reading documentation blocks

Every comment of a group that begins with a marker opens a block, which runs up to the next such
comment or to the end of the group.  What a block comes to does not depend on the other blocks: it
may be empty, malformed, or document an endpoint.

## Lenient and strict reading

A lenient reading keeps every documented endpoint and notes what is wrong with it.  A strict reading
ends at the first endpoint whose documentation is not complete.  Both note the blocks they leave
out.
-/

namespace EndpointDocs
namespace Block

/-- Whether a comment opens a block. -/
def isMarked (raw : Text) : Bool :=
  (Marker.read? raw).isSome

/-- The blocks of a group of comments, each given with its delimiters. -/
def ofGroup : List Text → List (List Text)
  | [] => []
  | raw :: rest =>
      if isMarked raw then (raw :: rest.takeWhile fun r => !isMarked r) :: ofGroup rest
      else ofGroup rest

inductive Outcome where
  | unmarked
  | empty (name : Text)
  | malformed (name : Text) (error : SectionError)
  | documented (endpoint : Endpoint)
deriving DecidableEq, Repr

def outcome (block : List Text) : Outcome :=
  match Marker.read? (Comment.plainText block) with
  | none => .unmarked
  | some marker =>
      if Text.allBlank marker.body then .empty marker.name
      else
        match Endpoint.ofBody marker.name marker.body with
        | .ok e => .documented e
        | .error error => .malformed marker.name error

end Block

/-- What a reading notes about a block. -/
inductive Remark where
  | emptyBlock
  | skippedBlock (error : SectionError)
  | incomplete (problem : Problem)
deriving DecidableEq, Repr

namespace Remark

def message : Remark → Text
  | emptyBlock => "empty apidoc block, skipping".toList
  | skippedBlock error => "skipping apidoc block: ".toList ++ error.message
  | incomplete problem => "validation error: ".toList ++ problem.message

end Remark

structure Note where
  name : Text
  remark : Remark
deriving DecidableEq, Repr

/-- The endpoint that ends a strict reading, and what its documentation lacks. -/
structure Rejection where
  name : Text
  problem : Problem
deriving DecidableEq, Repr

namespace Rejection

def message (r : Rejection) : Text :=
  "validation error in apidoc(".toList ++ r.name ++ "): ".toList ++ r.problem.message

end Rejection

/-- The notes that a reading takes and the endpoints it finds, unless it ends early. -/
structure Reading where
  notes : List Note
  result : Except Rejection (List Endpoint)

namespace Reading

def withEndpoint (e : Endpoint) (r : Reading) : Reading :=
  { r with result := r.result.map (e :: ·) }

def withNote (note : Note) (r : Reading) : Reading :=
  { r with notes := note :: r.notes }

/-- The reading of what blocks come to, one after the other. -/
def ofOutcomes (strict : Bool) : List Block.Outcome → Reading
  | [] => ⟨[], .ok []⟩
  | .unmarked :: rest => ofOutcomes strict rest
  | .empty name :: rest => (ofOutcomes strict rest).withNote ⟨name, .emptyBlock⟩
  | .malformed name error :: rest =>
      (ofOutcomes strict rest).withNote ⟨name, .skippedBlock error⟩
  | .documented e :: rest =>
      match e.problem? with
      | none => (ofOutcomes strict rest).withEndpoint e
      | some problem =>
          if strict then ⟨[], .error ⟨e.name, problem⟩⟩
          else ((ofOutcomes strict rest).withEndpoint e).withNote ⟨e.name, .incomplete problem⟩

def ofGroups (strict : Bool) (groups : List (List Text)) : Reading :=
  ofOutcomes strict ((groups.flatMap Block.ofGroup).map Block.outcome)

end Reading
end EndpointDocs
