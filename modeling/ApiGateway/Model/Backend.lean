import ApiGateway.Duration.Forms
import ApiGateway.FieldPath
import ApiGateway.Model.Host

/-!
# Backends

A call made on behalf of an endpoint: where it goes and what becomes of the answer.
-/

set_option autoImplicit false

namespace ApiGateway

structure Backend (δ : Type) where
  hosts : List Host
  timeout : δ
  method : String
  urlPattern : String
  encoding : String
  /-- The key under which the result is nested in the merged answer. -/
  group : String
  /-- Paths removed from the answer. -/
  blacklist : List String
  /-- Paths kept in the answer. -/
  whitelist : List String
  /-- Fields renamed in the answer. -/
  mapping : Fields String
  isCollection : Bool
  wrapCollectionToJson : Bool
  /-- The path of the part that is kept. -/
  target : String
  middleware : Fields Json
  disableHostSanitize : Bool
  lbMode : String

namespace Backend

variable {α β δ ε : Type}

def standard [DurationForm δ] : Backend δ where
  hosts := Host.standardList
  timeout := DurationForm.standard .backendTimeout
  method := "GET"
  urlPattern := ""
  encoding := "json"
  group := ""
  blacklist := []
  whitelist := []
  mapping := []
  isCollection := false
  wrapCollectionToJson := false
  target := ""
  middleware := []
  disableHostSanitize := false
  lbMode := ""

/-- The hosts that are called: the backend's own, without blank rows, else the inherited ones. -/
def resolvedHosts (b : Backend δ) (inherited : List Host) : List Host :=
  let own := b.hosts.filter fun h => !h.isBlank
  if own ≠ [] then own else inherited.filter fun h => !h.isBlank

/-- The same backend with another timeout. -/
def withTimeout (b : Backend α) (timeout : β) : Backend β :=
  { hosts := b.hosts, timeout, method := b.method, urlPattern := b.urlPattern,
    encoding := b.encoding, group := b.group, blacklist := b.blacklist, whitelist := b.whitelist,
    mapping := b.mapping, isCollection := b.isCollection,
    wrapCollectionToJson := b.wrapCollectionToJson, target := b.target,
    middleware := b.middleware, disableHostSanitize := b.disableHostSanitize,
    lbMode := b.lbMode }

/-- Converts the duration, which lies at `timeout`. -/
def traverse (f : FieldPath → α → Except ε β) (path : FieldPath) (b : Backend α) :
    Except ε (Backend β) := do
  let timeout ← f (path.field "timeout") b.timeout
  .ok (b.withTimeout timeout)

end Backend

end ApiGateway
