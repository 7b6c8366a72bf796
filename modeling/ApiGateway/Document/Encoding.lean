import ApiGateway.Model.Group
import ApiGateway.Model.HealthCheck

/-!
# From entities to JSON

Every entity is an object with all of its fields. How an object is made of fields is a parameter:
a JSON value has them by key, a printed document may keep the order in which they are listed here.
-/

set_option autoImplicit false

namespace ApiGateway

/-- Makes an object of its fields. -/
abbrev ObjectMaker := List (String × Json) → Json

def textsToJson (entries : Fields String) : Json :=
  .object (entries.map fun p => (p.1, .string p.2))

variable {δ : Type}

def Host.encode (make : ObjectMaker) (h : Host) : Json :=
  make [("host", .string h.address), ("weight", .integer h.weight.toNat)]

def HealthCheck.encode [DurationForm δ] (make : ObjectMaker) (h : HealthCheck δ) : Json :=
  make [("url", .string h.url), ("timeout", DurationForm.toJson h.timeout)]

def Backend.encode [DurationForm δ] (make : ObjectMaker) (b : Backend δ) : Json :=
  make [
    ("hosts", .array (b.hosts.map (Host.encode make))),
    ("timeout", DurationForm.toJson b.timeout),
    ("method", .string b.method),
    ("url_pattern", .string b.urlPattern),
    ("encoding", .string b.encoding),
    ("group", .string b.group),
    ("blacklist", .strings b.blacklist),
    ("whitelist", .strings b.whitelist),
    ("mapping", textsToJson b.mapping),
    ("is_collection", .bool b.isCollection),
    ("wrap_collection_to_json", .bool b.wrapCollectionToJson),
    ("target", .string b.target),
    ("middleware", .object b.middleware),
    ("disable_host_sanitize", .bool b.disableHostSanitize),
    ("lb_mode", .string b.lbMode)]

def Definition.encode [DurationForm δ] (make : ObjectMaker) (d : Definition δ) : Json :=
  make [
    ("name", .string d.name),
    ("active", .bool d.active),
    ("endpoint", .string d.endpoint),
    ("hosts", .array (d.hosts.map (Host.encode make))),
    ("method", .string d.method),
    ("timeout", DurationForm.toJson d.timeout),
    ("cache_ttl", DurationForm.toJson d.cacheTtl),
    ("output_encoding", .string d.outputEncoding),
    ("except_querystrings", .strings d.exceptQuerystrings),
    ("except_headers", .strings d.exceptHeaders),
    ("middleware", .object d.middleware),
    ("backend", .array (d.backends.map (Backend.encode make)))]

def Group.encode [DurationForm δ] (make : ObjectMaker) (g : Group δ) : Json :=
  make [
    ("name", .string g.name),
    ("definitions", .array (g.definitions.map (Definition.encode make)))]

/-- A type of entities that have a JSON value. -/
class ToJson (α : Type) where
  toJson : α → Json

export ToJson (toJson)

instance : ToJson Host := ⟨Host.encode .ofFields⟩
instance [DurationForm δ] : ToJson (HealthCheck δ) := ⟨HealthCheck.encode .ofFields⟩
instance [DurationForm δ] : ToJson (Backend δ) := ⟨Backend.encode .ofFields⟩
instance [DurationForm δ] : ToJson (Definition δ) := ⟨Definition.encode .ofFields⟩
instance [DurationForm δ] : ToJson (Group δ) := ⟨Group.encode .ofFields⟩

end ApiGateway
