import ApiGateway.Text.Blank

/-!
# Hosts

An address and its weight for weighted round robin.
-/

set_option autoImplicit false

namespace ApiGateway

structure Host where
  address : String
  weight : UInt32
  deriving DecidableEq, Repr

namespace Host

/-- The row an editor starts with. -/
def blank : Host := ⟨"", 0⟩

def isBlank (h : Host) : Bool := Text.allBlank h.address

/-- A list of hosts starts with one blank row. -/
def standardList : List Host := [blank]

end Host

end ApiGateway
