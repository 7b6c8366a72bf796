import ApiGateway.Catalog

/-!
# Validation of catalogs

The issues of every definition at its place in the catalog, and every name or endpoint that an
earlier one already has, without regard to case. Blank ones are the definition's own issue.
-/

set_option autoImplicit false

namespace ApiGateway

/-- Folded texts with the place where each of them stood first. -/
structure Seen where
  entries : List (List Char × FieldPath)

namespace Seen

def none : Seen := ⟨[]⟩

def first? (seen : Seen) (value : String) : Option FieldPath :=
  seen.entries.lookup (Text.fold value)

/-- Reports a value that was seen before, or notes its place. -/
def check (seen : Seen) (what value : String) (path : FieldPath) : List Issue × Seen :=
  if Text.allBlank value then ([], seen)
  else match seen.first? value with
    | some first =>
      ([⟨path, what ++ " " ++ Text.quoted value ++ " duplicates `" ++ first.display ++ "`"⟩], seen)
    | Option.none => ([], ⟨(Text.fold value, path) :: seen.entries⟩)

end Seen

namespace Catalog

variable {δ : Type}

/-- The issues of a group's definitions from the `i`-th on, and the endpoints seen after them. -/
def definitionIssues (base : FieldPath) (i : Nat) (names endpoints : Seen) :
    List (Definition δ) → List Issue × Seen
  | [] => ([], endpoints)
  | d :: ds =>
    let path := (base.field "definitions").index i
    let own := d.issues.map (·.within path)
    let (nameIssues, names) := names.check "api name" d.name (path.field "name")
    let (endpointIssues, endpoints) := endpoints.check "endpoint" d.endpoint (path.field "endpoint")
    let (rest, endpoints) := definitionIssues base (i + 1) names endpoints ds
    (own ++ nameIssues ++ endpointIssues ++ rest, endpoints)

/-- The issues of the groups from the `i`-th on. -/
def groupIssues (i : Nat) (names endpoints : Seen) : List (Group δ) → List Issue
  | [] => []
  | g :: gs =>
    let path := FieldPath.root.index i
    let (nameIssues, names) := names.check "group name" g.name (path.field "name")
    let (own, endpoints) := definitionIssues path 0 .none endpoints g.definitions
    nameIssues ++ own ++ groupIssues (i + 1) names endpoints gs

/-- Everything that is wrong with a catalog. -/
def issues (c : Catalog δ) : List Issue := groupIssues 0 .none .none c.groups

end Catalog

end ApiGateway
