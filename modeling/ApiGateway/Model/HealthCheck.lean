import ApiGateway.Duration.Forms
import ApiGateway.FieldPath

/-!
# Health checks

The address that a probe asks, and how long it waits.
-/

set_option autoImplicit false

namespace ApiGateway

structure HealthCheck (δ : Type) where
  url : String
  timeout : δ

namespace HealthCheck

variable {α β δ ε : Type}

def standard [DurationForm δ] : HealthCheck δ :=
  ⟨"", DurationForm.standard .healthCheckTimeout⟩

/-- Converts the duration, which lies at `timeout`. -/
def traverse (f : FieldPath → α → Except ε β) (path : FieldPath) (h : HealthCheck α) :
    Except ε (HealthCheck β) := do
  let timeout ← f (path.field "timeout") h.timeout
  .ok { url := h.url, timeout }

end HealthCheck

end ApiGateway
