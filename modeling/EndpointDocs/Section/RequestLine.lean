import EndpointDocs.Text.Blank

/-!
# Request lines

A request line names the verb and the URL of a request, as in `GET /users/:id`.  It may stand
anywhere in a line of text: a verb, one or more blanks, and a path that begins with a slash and runs
to the end of the line.  Of several places the leftmost counts.
-/

namespace EndpointDocs

inductive Verb where
  | get | put | post | delete | head | options | trace | connect | patch
deriving DecidableEq, Repr

namespace Verb

/-- All verbs.  None of them begins another. -/
def all : List Verb :=
  [get, put, post, delete, head, options, trace, connect, patch]

def text : Verb → Text
  | get => "GET".toList
  | put => "PUT".toList
  | post => "POST".toList
  | delete => "DELETE".toList
  | head => "HEAD".toList
  | options => "OPTIONS".toList
  | trace => "TRACE".toList
  | connect => "CONNECT".toList
  | patch => "PATCH".toList

end Verb

structure RequestLine where
  verb : Verb
  url : Text
deriving DecidableEq, Repr

namespace RequestLine

/-- The path after the blanks that follow a verb, to the end of its line and without the blanks
there. -/
def path? : Text → Option Text
  | [] => none
  | c :: rest =>
      if Text.isBlank c then
        match Text.trimStart rest with
        | '/' :: path => some (Text.trimEnd ('/' :: path.takeWhile (· != '\n')))
        | _ => none
      else none

/-- The request line that begins a text with this verb. -/
def startingWith? (verb : Verb) (t : Text) : Option RequestLine :=
  ((Text.after? verb.text t).bind path?).map fun url => ⟨verb, url⟩

def atStart? (t : Text) : Option RequestLine :=
  Verb.all.findSome? fun verb => startingWith? verb t

/-- The leftmost request line of a text. -/
def find? : Text → Option RequestLine
  | [] => none
  | c :: rest => (atStart? (c :: rest)).or (find? rest)

end RequestLine
end EndpointDocs
