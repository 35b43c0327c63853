import EndpointDocs.Text.Basic

/-!
# Formats of documents

A document is written as Markdown, as an HTML page or as JSON.
-/

namespace EndpointDocs

inductive Format where
  | markdown | html | json
deriving DecidableEq, Repr

namespace Format

def name : Format → Text
  | markdown => "markdown".toList
  | html => "html".toList
  | json => "json".toList

def extension : Format → Text
  | markdown => "md".toList
  | html => "html".toList
  | json => "json".toList

def all : List Format :=
  [markdown, html, json]

def ofName? (t : Text) : Option Format :=
  all.find? fun f => f.name == t

end Format
end EndpointDocs
