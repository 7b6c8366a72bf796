import ApiGateway.Indexed
import ApiGateway.Model.Backend

/-!
# Definitions

An endpoint of the gateway, with the backends that serve it.
-/

set_option autoImplicit false

namespace ApiGateway

structure Definition (δ : Type) where
  /-- Unique within its group. -/
  name : String
  active : Bool
  /-- The path it listens on, unique across all groups. -/
  endpoint : String
  /-- Used by backends that list none of their own. -/
  hosts : List Host
  method : String
  timeout : δ
  cacheTtl : δ
  outputEncoding : String
  /-- Query strings that are not passed on. -/
  exceptQuerystrings : List String
  /-- Headers that are not passed on. -/
  exceptHeaders : List String
  middleware : Fields Json
  backends : List (Backend δ)

namespace Definition

variable {α β δ ε : Type}

def standard [DurationForm δ] : Definition δ where
  name := ""
  active := false
  endpoint := ""
  hosts := Host.standardList
  method := "GET"
  timeout := DurationForm.standard .definitionTimeout
  cacheTtl := DurationForm.standard .definitionCacheTtl
  outputEncoding := "json"
  exceptQuerystrings := []
  exceptHeaders := []
  middleware := []
  backends := [.standard]

/-- The same definition with other durations. -/
def withDurations (d : Definition α) (timeout cacheTtl : β) (backends : List (Backend β)) :
    Definition β :=
  { name := d.name, active := d.active, endpoint := d.endpoint, hosts := d.hosts,
    method := d.method, timeout, cacheTtl, outputEncoding := d.outputEncoding,
    exceptQuerystrings := d.exceptQuerystrings, exceptHeaders := d.exceptHeaders,
    middleware := d.middleware, backends }

/-- Converts every duration: its own two first, then those of the backends in order. -/
def traverse (f : FieldPath → α → Except ε β) (path : FieldPath) (d : Definition α) :
    Except ε (Definition β) := do
  let timeout ← f (path.field "timeout") d.timeout
  let cacheTtl ← f (path.field "cache_ttl") d.cacheTtl
  let backends ← Indexed.traverse
    (fun i b => b.traverse f ((path.field "backend").index i)) d.backends
  .ok (d.withDurations timeout cacheTtl backends)

end Definition

end ApiGateway
