/-!
# Units of durations

The six units that the gateway reads, and the units that people write.
-/

set_option autoImplicit false

namespace ApiGateway

/-- The nanoseconds in a second. -/
abbrev nanosPerSecond : Nat := 1000000000

/-- The units of wire texts and of bare numbers. -/
inductive TimeUnit where
  | nanoseconds
  | microseconds
  | milliseconds
  | seconds
  | minutes
  | hours
  deriving DecidableEq, Repr

namespace TimeUnit

/-- The length in nanoseconds. -/
def nanos : TimeUnit → Nat
  | nanoseconds => 1
  | microseconds => 1000
  | milliseconds => 1000000
  | seconds => 1000000000
  | minutes => 60000000000
  | hours => 3600000000000

def suffix : TimeUnit → String
  | nanoseconds => "ns"
  | microseconds => "us"
  | milliseconds => "ms"
  | seconds => "s"
  | minutes => "m"
  | hours => "h"

/-- The unit of a suffix, which the micro sign may also start. -/
def ofSuffix? (s : String) : Option TimeUnit :=
  match s with
  | "ns" => some nanoseconds
  | "us" | "µs" => some microseconds
  | "ms" => some milliseconds
  | "s" => some seconds
  | "m" => some minutes
  | "h" => some hours
  | _ => none

/-- Longest first. -/
def all : List TimeUnit := [hours, minutes, seconds, milliseconds, microseconds, nanoseconds]

/-- The unit of bare numbers where none is given. -/
def standard : TimeUnit := seconds

theorem ofSuffix?_suffix (u : TimeUnit) : ofSuffix? u.suffix = some u := by cases u <;> rfl

end TimeUnit

end ApiGateway
