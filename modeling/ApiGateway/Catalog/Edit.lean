import ApiGateway.Catalog

/-!
# Edits

The four operations that change a catalog, as one step that may be rejected, and runs of such
steps.
-/

set_option autoImplicit false

namespace ApiGateway

inductive Edit (δ : Type) where
  | add (group : String) (d : Definition δ)
  | update (group : String) (d : Definition δ)
  | remove (group name : String)
  | removeGroup (name : String)

namespace Catalog

variable {δ : Type}

/-- Whether an edit is accepted, and the catalog that it leaves behind. -/
def edit (c : Catalog δ) : Edit δ → Except CatalogError Unit × Catalog δ
  | .add group d => c.addDefinition group d
  | .update group d => c.updateDefinition group d
  | .remove group name => (c.removeDefinition group name).map (·.map fun _ => ()) id
  | .removeGroup name => (c.removeGroup name).map (·.map fun _ => ()) id

def after (c : Catalog δ) (e : Edit δ) : Catalog δ := (c.edit e).2

def run (c : Catalog δ) (es : List (Edit δ)) : Catalog δ := es.foldl after c

end Catalog

end ApiGateway
