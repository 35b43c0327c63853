import EndpointDocs.Path.Basic

/-!
# Inputs and outputs

Every input is a Go source, known by its extension.  The document about an input stands next to it
under the stem of its name, with the name of the package before it if there is one.
-/

namespace EndpointDocs
namespace Path

def isGoSource (path : Path) : Bool :=
  extension? path == some "go".toList

/-- The first of some paths that does not name a Go source. -/
def firstOther? (inputs : List Path) : Option Path :=
  inputs.find? fun path => !isGoSource path

def documentName (stem extension : Text) (package : Option Text) : Text :=
  (match package with
    | some p => p ++ ['_']
    | none => []) ++ stem ++ "_apidoc.".toList ++ extension

def document (input : Path) (extension : Text) (package : Option Text) : Path :=
  withFileName input (documentName ((fileStem? input).getD []) extension package)

end Path
end EndpointDocs
