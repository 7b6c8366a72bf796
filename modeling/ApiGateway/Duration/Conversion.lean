import ApiGateway.Duration.Phrase

/-!
# Texts and numbers as durations

Reading takes a bare number in a unit, or a phrase. Writing takes the nearest span and spells it
with its longest unit.
-/

set_option autoImplicit false

namespace ApiGateway

/-- A duration as it is stored and sent, such as `90s`. -/
structure DurationText where
  text : String
  deriving DecidableEq, Repr

namespace Duration

/-- The wire text of a span. -/
def ofSpan (s : Span) : DurationText := ⟨s.text⟩

/-- The wire text of a number of seconds. -/
def write (x : Binary64) : Except DurationError DurationText := do
  let seconds ← Seconds.ofBinary64 x
  match seconds.toSpan? with
  | some span => .ok (ofSpan span)
  | none => .error (.outOfRange x)

/-- A bare number in a unit. The product and the quotient are rounded, each on its own. -/
def ofNumber (value : Binary64) (unit : TimeUnit) : Except DurationError Seconds :=
  if !value.isFinite then .error .notFinite
  else if value.isNegative then .error (.negative value)
  else
    let secs := value * Binary64.ofNat unit.nanos / Binary64.ofNat nanosPerSecond
    if !secs.isFinite then .error (.outOfRange value) else Seconds.ofBinary64 secs

/-- The seconds that a text names: a bare number in `unit`, else a phrase. -/
def read (input : String) (unit : TimeUnit) : Except DurationError Seconds :=
  let cs := Text.trim input.toList
  if cs = [] then .error .empty
  else match Binary64.ofText? cs with
    | some value => ofNumber value unit
    | none =>
      match Phrase.read cs with
      | .ok span => .ok (Seconds.ofSpan span)
      | .error (.fault reason) => .error (.malformed input reason)
      | .error .abort => .error .abort

/-- Digits and the suffix of a unit, with nothing around them. -/
def isWireText (input : String) : Bool :=
  let (ds, rest) := Digits.split input.toList
  ds ≠ [] && (TimeUnit.ofSuffix? (String.ofList rest)).isSome

/-- The wire text of an accepted text: one that has the form already is kept as it is. -/
def normalize (input : String) : Except DurationError DurationText := do
  let seconds ← read input .seconds
  if isWireText input then .ok ⟨input⟩ else write seconds.value

end Duration

end ApiGateway
