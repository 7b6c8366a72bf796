import ApiGateway.Binary64.Decimal
import ApiGateway.Text.Quoted

/-!
# What is wrong with a duration

The causes, and their messages.
-/

set_option autoImplicit false

namespace ApiGateway

/-- Why a text is not a sum of parts such as `1h 30m`. Offsets count bytes. -/
inductive PhraseError where
  | empty
  | expectedNumber (offset : Nat)
  | invalidCharacter (offset : Nat)
  | overflow
  | missingUnit (value : Nat)
  | unknownUnit (name : String)
  deriving DecidableEq, Repr

namespace PhraseError

def message : PhraseError → String
  | empty => "value was empty"
  | expectedNumber offset => "expected number at " ++ toString offset
  | invalidCharacter offset => "invalid character at " ++ toString offset
  | overflow => "number is too large or cannot be represented without a lack of precision " ++
      "(values below 1ns are not supported)"
  | missingUnit value => "time unit needed, for example " ++ toString value ++ "sec or " ++
      toString value ++ "ms"
  | unknownUnit name => "unknown time unit " ++ Text.quoted name ++ ", supported units: " ++
      "ns, us/µs, ms, sec, min, hours, days, weeks, months, years (and few variations)"

end PhraseError

inductive DurationError where
  | empty
  | negative (value : Binary64)
  | notFinite
  | outOfRange (value : Binary64)
  | malformed (input : String) (reason : PhraseError)
  | unknownUnit (name : String)
  /-- The parts of a text add up to `2⁶⁴` seconds by a last carry of exactly one second. No
  caller recovers from this: the whole program stops. -/
  | abort
  deriving DecidableEq

namespace DurationError

/-- Doubles in messages never have an exponent, and whole ones no point. -/
def layout : Layout := ⟨fun _ => true, "", "", .up⟩

def message : DurationError → String
  | empty => "duration is empty"
  | negative value => "duration must not be negative, got " ++ value.text layout
  | notFinite => "duration must be a finite number"
  | outOfRange value => "duration " ++ value.text layout ++ " seconds is out of range"
  | malformed input reason => "malformed duration " ++ Text.quoted input ++ ": " ++ reason.message
  | unknownUnit name => "unknown duration unit " ++ Text.quoted name
  | abort => "duration overflows"

/-- Developers are shown exponents outside `1e-4` to just below `1e16`. -/
def debugLayout : Layout := ⟨fun e => -4 ≤ e && e < 16, ".0", "", .up⟩

def debug : DurationError → String
  | empty => "Empty"
  | negative value => Text.tuple "Negative" [value.text debugLayout]
  | notFinite => "NotFinite"
  | outOfRange value => Text.tuple "OutOfRange" [value.text debugLayout]
  | malformed input reason => Text.record "Malformed"
      [("input", Text.quoted input), ("reason", Text.quoted reason.message)]
  | unknownUnit name => Text.tuple "UnknownUnit" [Text.quoted name]
  | abort => message abort

end DurationError

end ApiGateway
