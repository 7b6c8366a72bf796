import ApiGateway.Binary64.Decimal

/-!
# TOML documents

A document is a list of statements, each a header or an assignment. Statements build tables in
order, and a table knows how it came about, as that decides what may still be added to it.
-/

set_option autoImplicit false

namespace ApiGateway.Toml

mutual

/-- What a key stands for. An inline table or an array is complete once it is written. -/
inductive Node where
  | string (s : String)
  | integer (n : Int)
  | float (x : Binary64)
  | bool (b : Bool)
  | dateTime
  | array (items : List Node)
  | inline (entries : List (String × Node))
  | table (t : Table)
  | tables (ts : List Table)

/-- A table; `implicit` if only longer paths have named it, `dotted` if keys with points made it.
The entries stand in the order in which they came. -/
inductive Table where
  | mk (implicit dotted : Bool) (entries : List (String × Node))

end

instance : Inhabited Node := ⟨.bool false⟩

inductive Statement where
  | header (path : List String)
  | arrayHeader (path : List String)
  | assign (path : List String) (value : Node)

namespace Table

def implicit : Table → Bool
  | mk implicit _ _ => implicit

def dotted : Table → Bool
  | mk _ dotted _ => dotted

def entries : Table → List (String × Node)
  | mk _ _ entries => entries

def new : Table := mk false false []

instance : Inhabited Table := ⟨new⟩

/-- The same table, named by a header of its own. -/
def declare (t : Table) : Table := mk false false t.entries

end Table

/-- Changes the entry of a key, or adds one at the end. -/
def alter (key : String) (f : Option Node → Option Node) :
    List (String × Node) → Option (List (String × Node))
  | [] => (f none).map fun node => [(key, node)]
  | (k, v) :: rest =>
    if k = key then (f (some v)).map fun node => (k, node) :: rest
    else (alter key f rest).map fun rest => (k, v) :: rest

def Table.alter (t : Table) (key : String) (f : Option Node → Option Node) : Option Table :=
  (Toml.alter key f t.entries).map (Table.mk t.implicit t.dotted)

/-- Changes the table at the end of a path. Missing tables are made on the way, an array of tables
is entered at its last one, and keys with points do not enter a table with a header. -/
def descend (dotted : Bool) (f : Table → Option Table) : List String → Table → Option Table
  | [], t => f t
  | key :: keys, t =>
    t.alter key fun
      | none => (descend dotted f keys (.mk true dotted [])).map .table
      | some (.table child) =>
        if dotted && !child.implicit then none else (descend dotted f keys child).map .table
      | some (.tables ts) =>
        match ts.getLast? with
        | none => none
        | some last => (descend dotted f keys last).map fun last => .tables (ts.dropLast ++ [last])
      | some _ => none

def insertNew (key : String) (value : Node) (t : Table) : Option Table :=
  t.alter key fun
    | none => some value
    | some _ => none

/-- Assigns below a table. All but the last key name tables that such keys have made. -/
def assign (path : List String) (value : Node) (t : Table) : Option Table :=
  match path.getLast? with
  | none => none
  | some key =>
    let parents := path.dropLast
    descend true (fun t => if t.dotted = parents.isEmpty then none else insertNew key value t)
      parents t

/-- Opens the table of a header, which no header and no assignment has made before. -/
def openTable (path : List String) (root : Table) : Option Table :=
  match path.getLast? with
  | none => none
  | some key =>
    descend false (fun t => t.alter key fun
      | none => some (.table .new)
      | some (.table t) => if t.implicit && !t.dotted then some (.table t.declare) else none
      | some _ => none) path.dropLast root

/-- Opens one more table of an array. -/
def openItem (path : List String) (root : Table) : Option Table :=
  match path.getLast? with
  | none => none
  | some key =>
    descend false (fun t => t.alter key fun
      | none => some (.tables [.new])
      | some (.tables ts) => some (.tables (ts ++ [.new]))
      | some _ => none) path.dropLast root

/-- The table that statements build; `current` is the path of the last header. -/
def buildFrom (root : Table) (current : List String) : List Statement → Option Table
  | [] => some root
  | .header path :: rest => do buildFrom (← openTable path root) path rest
  | .arrayHeader path :: rest => do buildFrom (← openItem path root) path rest
  | .assign path value :: rest => do
    buildFrom (← descend false (assign path value) current root) current rest

def build (statements : List Statement) : Option Table := buildFrom .new [] statements

/-- The table that the assignments of an inline table build. -/
def buildInline (pairs : List (List String × Node)) : Option Node :=
  (pairs.foldlM (fun t p => assign p.1 p.2 t) Table.new).map fun t => .inline t.entries

end ApiGateway.Toml
