import ApiGateway.Duration.Error
import ApiGateway.FieldPath

/-!
# What is wrong with a document

A field of the wrong type, or a duration that cannot be converted, each with its place.
-/

set_option autoImplicit false

namespace ApiGateway

inductive DocumentError where
  | shape (path : FieldPath) (expected found : String)
  | duration (path : FieldPath) (cause : DurationError)
  deriving DecidableEq

namespace DocumentError

def path : DocumentError → FieldPath
  | shape path .. => path
  | duration path _ => path

/-- The same error seen from further up. -/
def within (base : FieldPath) : DocumentError → DocumentError
  | shape path expected found => shape (base.join path) expected found
  | duration path cause => duration (base.join path) cause

def isShape : DocumentError → Bool
  | shape .. => true
  | duration .. => false

/-- No report at all: the whole program stops here. -/
def isAbort : DocumentError → Bool
  | duration _ .abort => true
  | _ => false

/-- A duration that is reported. -/
def isDuration (e : DocumentError) : Bool := !e.isShape && !e.isAbort

theorem isAbort_within (base : FieldPath) (e : DocumentError) :
    (e.within base).isAbort = e.isAbort := by
  rcases e with _ | ⟨_, _ | _⟩ <;> rfl

theorem isAbort_eq_false {e : DocumentError} (hd : e.isDuration) : e.isAbort = false := by
  unfold isDuration at hd
  rw [Bool.and_eq_true, Bool.not_eq_true', Bool.not_eq_true'] at hd
  exact hd.2

theorem isAbort_of_not {e : DocumentError} (hs : ¬ e.isShape) (hd : ¬ e.isDuration) :
    e.isAbort := by
  simpa [isDuration, hs] using hd

def message : DocumentError → String
  | shape path expected found =>
    "invalid shape at `" ++ path.display ++ "`: expected " ++ expected ++ ", found " ++ found
  | duration path cause => "invalid duration at `" ++ path.display ++ "`: " ++ cause.message

def debug : DocumentError → String
  | shape path expected found => Text.record "InvalidShape"
      [("path", path.debug), ("expected", Text.quoted expected), ("found", Text.quoted found)]
  | duration path cause => Text.record "InvalidDurationFormat"
      [("path", path.debug), ("source", cause.debug)]

end DocumentError

end ApiGateway
