import ApiGateway.Model.Definition

/-!
# Groups

A named collection of definitions.
-/

set_option autoImplicit false

namespace ApiGateway

structure Group (δ : Type) where
  name : String
  definitions : List (Definition δ)

namespace Group

variable {α β δ ε : Type}

def standard : Group δ := ⟨"", []⟩

/-- Converts every duration, definition by definition. -/
def traverse (f : FieldPath → α → Except ε β) (path : FieldPath) (g : Group α) :
    Except ε (Group β) := do
  let definitions ← Indexed.traverse
    (fun i d => d.traverse f ((path.field "definitions").index i)) g.definitions
  .ok { name := g.name, definitions }

end Group

end ApiGateway
