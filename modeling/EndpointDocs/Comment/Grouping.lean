import EndpointDocs.Comment.Discovery
import EndpointDocs.Text.Blank

/-!
# Groups of comments

Comments that stand directly one after the other are read together.  Code or a blank line between
two comments separates them, so that a comment behind a statement never continues the one above.
-/

namespace EndpointDocs
namespace Comment

/-- Whether nothing but blanks, with at most one line feed, separates two comments of a source. -/
def adjoins (source : Text) (first second : Comment) : Bool :=
  match Text.slice? source first.stop second.start with
  | some gap => Text.allBlank gap && decide (gap.count '\n' ≤ 1)
  | none => false

def groups (source : Text) (comments : List Comment) : List (List Comment) :=
  comments.splitBy (adjoins source)

end Comment
end EndpointDocs
