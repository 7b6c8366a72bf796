import ApiGateway.Duration.TimeUnit

/-!
# Spans of time

A span counts nanoseconds and stays below `2⁶⁴` seconds. Its text is a whole number of the longest
unit that divides it.
-/

set_option autoImplicit false

namespace ApiGateway

structure Span where
  nanos : Nat
  nanos_lt : nanos < UInt64.size * nanosPerSecond
  deriving DecidableEq

namespace Span

def ofSeconds (n : Nat) (h : n < UInt64.size) : Span :=
  ⟨n * nanosPerSecond, Nat.mul_lt_mul_of_pos_right h (by decide)⟩

/-- The whole seconds. -/
def secs (s : Span) : Nat := s.nanos / nanosPerSecond

/-- The nanoseconds beyond the last whole second. -/
def subsec (s : Span) : Nat := s.nanos % nanosPerSecond

theorem secs_lt (s : Span) : s.secs < UInt64.size := Nat.div_lt_of_lt_mul (by
  rw [Nat.mul_comm]
  exact s.nanos_lt)

theorem subsec_lt (s : Span) : s.subsec < nanosPerSecond := Nat.mod_lt _ (by decide)

theorem nanos_eq (s : Span) : s.nanos = s.secs * nanosPerSecond + s.subsec :=
  (Nat.div_add_mod' s.nanos nanosPerSecond).symm

/-- The longest unit that divides a count of nanoseconds. -/
def longestUnit (nanos : Nat) : TimeUnit :=
  (TimeUnit.all.find? fun u => nanos % u.nanos = 0).getD .nanoseconds

def text (s : Span) : String :=
  if s.nanos = 0 then "0s"
  else
    let u := longestUnit s.nanos
    toString (s.nanos / u.nanos) ++ u.suffix

end Span

end ApiGateway
