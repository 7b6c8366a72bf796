import ApiGateway.Catalog

/-!
# Stored catalogs

A catalog is stored as an array of groups in wire form and edited in the editor's.
-/

set_option autoImplicit false

namespace ApiGateway.Catalog

/-- The type of a value that is no array; numbers and booleans are not told apart. -/
def scalarKind : Json → String
  | .object _ => "object"
  | .string _ => "string"
  | .null => "null"
  | _ => "scalar"

/-- A group of a stored catalog, read at its place. -/
def loadGroup (i : Nat) (item : Json) : Hydrated (Group Seconds) := do
  let path := FieldPath.root.index i
  let group : Group RawDuration ← hydrate item path
  group.receive.mapError (·.within path)

/-- The editor's form of a stored catalog. -/
def load (raw : Json) : Except CatalogError (Catalog Seconds) :=
  match raw with
  | .array items =>
    match Indexed.traverse loadGroup items with
    | .ok groups => .ok ⟨groups⟩
    | .error e => .error (.document e)
  | other => .error (.notAnArray (scalarKind other))

variable {δ : Type}

/-- The editor's form of every group; the first failure is reported from inside its group. -/
def receive [Receivable δ] (c : Catalog δ) : Except CatalogError (Catalog Seconds) :=
  match Indexed.traverse (fun _ g => g.receive) c.groups with
  | .ok groups => .ok ⟨groups⟩
  | .error e => .error (.document e)

/-- The wire form of every group; the first failure is reported from inside its group. -/
def send [Sendable δ] (c : Catalog δ) : Except CatalogError (Catalog DurationText) :=
  match Indexed.traverse (fun _ g => g.send) c.groups with
  | .ok groups => .ok ⟨groups⟩
  | .error e => .error (.document e)

end ApiGateway.Catalog
