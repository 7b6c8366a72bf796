import ApiGateway.Duration.Conversion
import ApiGateway.Json

/-!
# The three forms of a duration field

A raw field is what the input had, a wire field is a text, and an editor field is a number of
seconds. A received document turns into the editor's form, a sent one into the wire form.
-/

set_option autoImplicit false

namespace ApiGateway

/-- A duration field as found in a document. -/
inductive RawDuration where
  | text (s : String)
  | number (x : Binary64)
  deriving DecidableEq

/-- A default, in both spellings. -/
structure StandardDuration where
  text : String
  span : Span

namespace StandardDuration

def healthCheckTimeout : StandardDuration := ⟨"1s", .ofSeconds 1 (by decide)⟩
def backendTimeout : StandardDuration := ⟨"3s", .ofSeconds 3 (by decide)⟩
def definitionTimeout : StandardDuration := ⟨"1m", .ofSeconds 60 (by decide)⟩
def definitionCacheTtl : StandardDuration := ⟨"3600s", .ofSeconds 3600 (by decide)⟩

end StandardDuration

/-- A type of duration fields. -/
class DurationForm (δ : Type) where
  standard : StandardDuration → δ
  toJson : δ → Json

/-- A form that can be turned into the editor's. -/
class Receivable (δ : Type) where
  receive : δ → Except DurationError Seconds

/-- A form that can be turned into wire texts. -/
class Sendable (δ : Type) where
  send : δ → Except DurationError DurationText

/-- Whole seconds are integers up to `2⁵³`, so that the editor shows `3` and not `3.0`. -/
def Seconds.toJson (s : Seconds) : Json :=
  match s.whole? with
  | some n => .integer n
  | none => .float s.value

instance : DurationForm RawDuration where
  standard d := .text d.text
  toJson
    | .text s => .string s
    | .number x => .ofBinary64 x

instance : DurationForm DurationText where
  standard d := ⟨d.text⟩
  toJson d := .string d.text

instance : DurationForm Seconds where
  standard d := .ofSpan d.span
  toJson := Seconds.toJson

instance : Receivable RawDuration where
  receive
    | .text s => Duration.read s .standard
    | .number x => Duration.ofNumber x .standard

instance : Receivable DurationText where
  receive d := Duration.read d.text .standard

instance : Sendable RawDuration where
  send
    | .text s => Duration.normalize s
    | .number x => Duration.write x

instance : Sendable Seconds where
  send s := Duration.write s.value

end ApiGateway
