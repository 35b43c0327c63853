import EndpointDocs.Value.Json.Number
import EndpointDocs.Value.Json.Token

/-!
# Reading JSON

The tokens of a JSON text are taken one by one.  The lists and tables that have been opened and not
yet closed are kept, innermost first, together with what may come next.  A text is read when its
tokens are used up and one value has been completed.

## Depth

At most 127 lists and tables may be open at a time.
-/

namespace EndpointDocs
namespace Json

/-- A list or table that has been opened, with its entries so far, last one first. -/
inductive Frame where
  | items (done : List Value)
  | entries (done : List (Text × Value))
  | entry (done : List (Text × Value)) (name : Text)
deriving Repr

/-- What may come next. -/
inductive Expected where
  | value
  | firstItem
  | firstName
  | name
  | colon
  | next
  | finished (v : Value)
deriving Repr

/-- A JSON text that has been read in part. -/
structure Progress where
  frames : List Frame
  expected : Expected
deriving Repr

/-- The number of lists and tables that may be open. -/
def depthLimit : Nat :=
  127

def wordValue? (word : Text) : Option Value :=
  if word = "null".toList then some .null
  else if word = "true".toList then some (.bool true)
  else if word = "false".toList then some (.bool false)
  else number? word

namespace Progress

/-- Takes a completed value into the innermost list or table. -/
def complete (v : Value) : List Frame → Option Progress
  | [] => some ⟨[], .finished v⟩
  | .items done :: frames => some ⟨.items (v :: done) :: frames, .next⟩
  | .entry done name :: frames => some ⟨.entries ((name, v) :: done) :: frames, .next⟩
  | .entries _ :: _ => none

def open? (frame : Frame) (expected : Expected) (frames : List Frame) : Option Progress :=
  if frames.length < depthLimit then some ⟨frame :: frames, expected⟩ else none

/-- Takes a token that begins a value. -/
def beginValue (frames : List Frame) : Token → Option Progress
  | .leftBracket => open? (.items []) .firstItem frames
  | .leftBrace => open? (.entries []) .firstName frames
  | .text t => complete (.text t) frames
  | .word w => (wordValue? w).bind fun v => complete v frames
  | _ => none

/-- Takes a token behind an entry of a list or table. -/
def afterEntry : List Frame → Token → Option Progress
  | .items done :: frames, .comma => some ⟨.items done :: frames, .value⟩
  | .items done :: frames, .rightBracket => complete (.list done.reverse) frames
  | .entries done :: frames, .comma => some ⟨.entries done :: frames, .name⟩
  | .entries done :: frames, .rightBrace => complete (.table done.reverse) frames
  | _, _ => none

def beginEntry : List Frame → Token → Option Progress
  | .entries done :: frames, .text name => some ⟨.entry done name :: frames, .colon⟩
  | _, _ => none

def step (p : Progress) (token : Token) : Option Progress :=
  match p.expected with
  | .value => beginValue p.frames token
  | .firstItem =>
      if token = .rightBracket then afterEntry p.frames token else beginValue p.frames token
  | .firstName =>
      if token = .rightBrace then afterEntry p.frames token else beginEntry p.frames token
  | .name => beginEntry p.frames token
  | .colon => if token = .colon then some ⟨p.frames, .value⟩ else none
  | .next => afterEntry p.frames token
  | .finished _ => none

def run (p : Progress) : List Token → Option Progress
  | [] => some p
  | token :: rest => (p.step token).bind fun p' => run p' rest

def value? (p : Progress) : Option Value :=
  match p.expected with
  | .finished v => some v
  | _ => none

end Progress

def read? (t : Text) : Option Value :=
  (tokens? t).bind fun tokens =>
    ((Progress.mk [] .value).run tokens).bind Progress.value?

end Json
end EndpointDocs
