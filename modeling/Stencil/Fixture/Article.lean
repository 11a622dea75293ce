import Stencil.Value

/-! A sample host object: an article with a title, tags, an accessor that works and one that fails. -/

set_option autoImplicit false

namespace Stencil.Fixture

def article (identity : Nat) (title : String) (tags : List String) : HostObject Value where
  identity := identity
  typeName := "Article"
  repr := "<Article: " ++ title ++ ">"
  display := title
  member? name :=
    match name with
    | "title" => some (.value (.text title))
    | "tags" => some (.value (.list (tags.map .text)))
    | "summary" => some (.accessor (.ok (.text ("About " ++ title))))
    | "author" => some (.accessor (.error (.other "author is not loaded")))
    | _ => none

end Stencil.Fixture
