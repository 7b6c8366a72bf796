import ApiGateway.Document.Error
import ApiGateway.Model.Group
import ApiGateway.Model.HealthCheck

/-!
# From JSON to entities

A field that is missing or null takes its default; one that is present has to have its type.
Fields are read in a fixed order, and the first fault is reported with its place. Durations are
kept as they were found.
-/

set_option autoImplicit false

namespace ApiGateway

abbrev Hydrated (α : Type) := Except DocumentError α

/-- A type of entities that JSON values can fill. -/
class Hydrate (α : Type) where
  hydrate : Json → FieldPath → Hydrated α

export Hydrate (hydrate)

/-- An object whose fields are read, at its place. -/
structure Record where
  fields : Fields Json
  path : FieldPath

namespace Record

variable {α : Type}

def mismatch (path : FieldPath) (expected : String) (found : Json) : Hydrated α :=
  .error (.shape path expected found.kind)

def ofJson (value : Json) (path : FieldPath) : Hydrated Record :=
  match value with
  | .object fields => .ok ⟨fields, path⟩
  | other => mismatch path "object" other

/-- A field that is present and not null. -/
def get? (r : Record) (key : String) : Option Json :=
  (Fields.get? r.fields key).filter fun v => !v.isNull

def string (r : Record) (key standard : String) : Hydrated String :=
  match r.get? key with
  | none => .ok standard
  | some (.string s) => .ok s
  | some other => mismatch (r.path.field key) "string" other

def flag (r : Record) (key : String) (standard : Bool) : Hydrated Bool :=
  match r.get? key with
  | none => .ok standard
  | some (.bool b) => .ok b
  | some other => mismatch (r.path.field key) "boolean" other

/-- An integer of 32 bits without sign. -/
def unsigned (r : Record) (key : String) (standard : UInt32) : Hydrated UInt32 :=
  match r.get? key with
  | none => .ok standard
  | some (.integer n) =>
    if 0 ≤ n ∧ n < UInt32.size then .ok (UInt32.ofNat n.toNat)
    else mismatch (r.path.field key) "non-negative integer" (.integer n)
  | some other => mismatch (r.path.field key) "non-negative integer" other

def object? (r : Record) (key : String) : Hydrated (Option (Fields Json)) :=
  match r.get? key with
  | none => .ok none
  | some (.object fields) => .ok (some fields)
  | some other => mismatch (r.path.field key) "object" other

def array? (r : Record) (key : String) : Hydrated (Option (List Json)) :=
  match r.get? key with
  | none => .ok none
  | some (.array items) => .ok (some items)
  | some other => mismatch (r.path.field key) "array" other

/-- An object of any content. -/
def opaqueFields (r : Record) (key : String) : Hydrated (Fields Json) := do
  return (← r.object? key).getD []

/-- Every item of an array, read by `item` at its place. An array that is there but empty stays
empty. -/
def items (r : Record) (key : String) (standard : List α)
    (item : Json → FieldPath → Hydrated α) : Hydrated (List α) := do
  match ← r.array? key with
  | none => .ok standard
  | some values => Indexed.traverse (fun i v => item v ((r.path.field key).index i)) values

def list [Hydrate α] (r : Record) (key : String) (standard : List α) : Hydrated (List α) :=
  r.items key standard hydrate

def text (value : Json) (path : FieldPath) : Hydrated String :=
  match value with
  | .string s => .ok s
  | other => mismatch path "string" other

def strings (r : Record) (key : String) : Hydrated (List String) := r.items key [] text

/-- The entries of an object whose values are strings, by their keys. -/
def textEntries (path : FieldPath) : Fields Json → Hydrated (Fields String)
  | [] => .ok []
  | (key, value) :: rest => do
    let s ← text value (path.field key)
    let entries ← textEntries path rest
    .ok ((key, s) :: entries)

def stringMap (r : Record) (key : String) : Hydrated (Fields String) := do
  match ← r.object? key with
  | none => .ok []
  | some fields => textEntries (r.path.field key) fields

def duration (r : Record) (key : String) (standard : RawDuration) : Hydrated RawDuration :=
  match r.get? key with
  | none => .ok standard
  | some (.string s) => .ok (.text s)
  | some (.integer n) => .ok (.number (Binary64.ofInt n))
  | some (.float x) => .ok (.number x)
  | some other => mismatch (r.path.field key) "duration string or number" other

end Record

instance : Hydrate Host where
  hydrate value path := do
    let r ← Record.ofJson value path
    let standard := Host.blank
    let address ← r.string "host" standard.address
    let weight ← r.unsigned "weight" standard.weight
    .ok { address, weight }

instance : Hydrate (HealthCheck RawDuration) where
  hydrate value path := do
    let r ← Record.ofJson value path
    let standard : HealthCheck RawDuration := .standard
    let url ← r.string "url" standard.url
    let timeout ← r.duration "timeout" standard.timeout
    .ok { url, timeout }

instance : Hydrate (Backend RawDuration) where
  hydrate value path := do
    let r ← Record.ofJson value path
    let standard : Backend RawDuration := .standard
    let hosts ← r.list "hosts" standard.hosts
    let timeout ← r.duration "timeout" standard.timeout
    let method ← r.string "method" standard.method
    let urlPattern ← r.string "url_pattern" standard.urlPattern
    let encoding ← r.string "encoding" standard.encoding
    let group ← r.string "group" standard.group
    let blacklist ← r.strings "blacklist"
    let whitelist ← r.strings "whitelist"
    let mapping ← r.stringMap "mapping"
    let isCollection ← r.flag "is_collection" standard.isCollection
    let wrapCollectionToJson ← r.flag "wrap_collection_to_json" standard.wrapCollectionToJson
    let target ← r.string "target" standard.target
    let middleware ← r.opaqueFields "middleware"
    let disableHostSanitize ← r.flag "disable_host_sanitize" standard.disableHostSanitize
    let lbMode ← r.string "lb_mode" standard.lbMode
    .ok { hosts, timeout, method, urlPattern, encoding, group, blacklist, whitelist, mapping,
          isCollection, wrapCollectionToJson, target, middleware, disableHostSanitize, lbMode }

instance : Hydrate (Definition RawDuration) where
  hydrate value path := do
    let r ← Record.ofJson value path
    let standard : Definition RawDuration := .standard
    let name ← r.string "name" standard.name
    let active ← r.flag "active" standard.active
    let endpoint ← r.string "endpoint" standard.endpoint
    let hosts ← r.list "hosts" standard.hosts
    let method ← r.string "method" standard.method
    let timeout ← r.duration "timeout" standard.timeout
    let cacheTtl ← r.duration "cache_ttl" standard.cacheTtl
    let outputEncoding ← r.string "output_encoding" standard.outputEncoding
    let exceptQuerystrings ← r.strings "except_querystrings"
    let exceptHeaders ← r.strings "except_headers"
    let middleware ← r.opaqueFields "middleware"
    let backends ← r.list "backend" standard.backends
    .ok { name, active, endpoint, hosts, method, timeout, cacheTtl, outputEncoding,
          exceptQuerystrings, exceptHeaders, middleware, backends }

instance : Hydrate (Group RawDuration) where
  hydrate value path := do
    let r ← Record.ofJson value path
    let name ← r.string "name" ""
    let definitions ← r.list "definitions" []
    .ok { name, definitions }

end ApiGateway
