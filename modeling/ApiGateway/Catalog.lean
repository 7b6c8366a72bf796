import ApiGateway.Document.Passes
import ApiGateway.Validation

/-!
# Catalogs

Groups of definitions as the administrator edits them. Names of definitions are unique within a
group and endpoints across all groups, both without regard to the case of ASCII letters. A look-up
answers the first match. An operation on a catalog gives its answer and the catalog that it leaves
behind, also where the answer is an error.
-/

set_option autoImplicit false

namespace ApiGateway

structure Catalog (δ : Type) where
  groups : List (Group δ)

inductive CatalogError where
  | nameExists (group name : String)
  | endpointExists (group endpoint : String)
  | groupNotFound (group : String)
  | definitionNotFound (group name : String)
  | notAnArray (found : String)
  | invalid (issues : List Issue)
  | document (error : DocumentError)
  deriving DecidableEq

namespace CatalogError

def isAbort : CatalogError → Bool
  | document e => e.isAbort
  | _ => false

def message : CatalogError → String
  | nameExists group name =>
    "api name " ++ Text.quoted name ++ " is already registered in group " ++ Text.quoted group
  | endpointExists group endpoint =>
    "api endpoint " ++ Text.quoted endpoint ++ " is already registered in group " ++
      Text.quoted group
  | groupNotFound group => "group " ++ Text.quoted group ++ " not found"
  | definitionNotFound group name =>
    "api definition " ++ Text.quoted name ++ " not found in group " ++ Text.quoted group
  | notAnArray found => "expected a JSON array of groups, found " ++ found
  | invalid issues =>
    "invalid api definition: " ++ ", ".intercalate (issues.map Issue.display)
  | document error => error.message

def debug : CatalogError → String
  | nameExists group name => Text.record "NameExists"
      [("group", Text.quoted group), ("name", Text.quoted name)]
  | endpointExists group endpoint => Text.record "EndpointExists"
      [("group", Text.quoted group), ("endpoint", Text.quoted endpoint)]
  | groupNotFound group => Text.tuple "GroupNotFound" [Text.quoted group]
  | definitionNotFound group name => Text.record "DefinitionNotFound"
      [("group", Text.quoted group), ("name", Text.quoted name)]
  | notAnArray found => Text.tuple "NotAnArray" [Text.quoted found]
  | invalid issues => Text.tuple "Invalid" [Text.sequence (issues.map Issue.debug)]
  | document error => Text.tuple "Model" [error.debug]

end CatalogError

namespace Catalog

variable {δ : Type}

def empty : Catalog δ := ⟨[]⟩

def group? (c : Catalog δ) (name : String) : Option (Group δ) :=
  c.groups.find? fun g => Text.same g.name name

def groupNames (c : Catalog δ) : List String := c.groups.map (·.name)

/-- All definitions, in the order of the groups. -/
def definitions (c : Catalog δ) : List (Definition δ) := c.groups.flatMap (·.definitions)

def findByName? (c : Catalog δ) (group name : String) : Option (Definition δ) := do
  let g ← c.group? group
  g.definitions.find? fun d => Text.same d.name name

/-- The definition that listens on a path, with its group. -/
def findByEndpoint? (c : Catalog δ) (endpoint : String) : Option (Group δ × Definition δ) :=
  c.groups.findSome? fun g =>
    (g.definitions.find? fun d => Text.same d.endpoint endpoint).map fun d => (g, d)

/-- The name of the first group in which a definition that `counts` listens on a path. -/
def endpointOwner? (c : Catalog δ) (endpoint : String)
    (counts : Group δ → Definition δ → Bool) : Option String :=
  c.groups.findSome? fun g =>
    (g.definitions.find? fun d => counts g d && Text.same d.endpoint endpoint).map fun _ => g.name

/-- The groups with a change to the first one of a name. -/
def modifyGroup (c : Catalog δ) (name : String) (f : Group δ → Group δ) : Catalog δ :=
  match c.groups.findIdx? fun g => Text.same g.name name with
  | some i => ⟨c.groups.modify i f⟩
  | none => c

/-- Adds a definition at the end of its group, which is created if it is missing. -/
def addDefinition (c : Catalog δ) (group : String) (d : Definition δ) :
    Except CatalogError Unit × Catalog δ :=
  if d.issues ≠ [] then (.error (.invalid d.issues), c)
  else if (c.findByName? group d.name).isSome then (.error (.nameExists group d.name), c)
  else match c.endpointOwner? d.endpoint fun _ _ => true with
    | some owner => (.error (.endpointExists owner d.endpoint), c)
    | none =>
      if (c.group? group).isSome then
        (.ok (), c.modifyGroup group fun g => { g with definitions := g.definitions ++ [d] })
      else (.ok (), ⟨c.groups ++ [⟨group, [d]⟩]⟩)

/-- Replaces the definition of the same name. Its own endpoint does not stand in the way. -/
def updateDefinition (c : Catalog δ) (group : String) (d : Definition δ) :
    Except CatalogError Unit × Catalog δ :=
  if d.issues ≠ [] then (.error (.invalid d.issues), c)
  else
    let isOther (g : Group δ) (e : Definition δ) : Bool :=
      !(Text.same g.name group && Text.same e.name d.name)
    match c.endpointOwner? d.endpoint isOther with
    | some owner => (.error (.endpointExists owner d.endpoint), c)
    | none =>
      match c.group? group with
      | none => (.error (.groupNotFound group), c)
      | some g =>
        match g.definitions.findIdx? fun e => Text.same e.name d.name with
        | none => (.error (.definitionNotFound group d.name), c)
        | some i =>
          (.ok (), c.modifyGroup group fun g => { g with definitions := g.definitions.set i d })

/-- Removes a definition, which is the answer too. -/
def removeDefinition (c : Catalog δ) (group name : String) :
    Except CatalogError (Definition δ) × Catalog δ :=
  match c.group? group with
  | none => (.error (.groupNotFound group), c)
  | some g =>
    match g.definitions.findIdx? fun d => Text.same d.name name with
    | none => (.error (.definitionNotFound group name), c)
    | some i =>
      match g.definitions[i]? with
      | none => (.error (.definitionNotFound group name), c)
      | some d =>
        (.ok d, c.modifyGroup group fun g => { g with definitions := g.definitions.eraseIdx i })

/-- Removes a group, which is the answer too. -/
def removeGroup (c : Catalog δ) (name : String) : Except CatalogError (Group δ) × Catalog δ :=
  match c.groups.findIdx? fun g => Text.same g.name name with
  | none => (.error (.groupNotFound name), c)
  | some i =>
    match c.groups[i]? with
    | none => (.error (.groupNotFound name), c)
    | some g => (.ok g, ⟨c.groups.eraseIdx i⟩)

end Catalog

end ApiGateway
