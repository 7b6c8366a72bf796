import ApiGateway.Duration.Seconds
import ApiGateway.Text.Blank

/-!
# Durations as people write them

A phrase is a sum of parts, `1h 30m`: a number, which may have a fraction, and a unit. The reader
goes through the text once and keeps exact sums. Its arithmetic is bounded: a part must fit 64
bits, counted in nanoseconds or in seconds according to the unit.
-/

set_option autoImplicit false

namespace ApiGateway

/-- The units of phrases. -/
inductive PhraseUnit where
  | nanosecond
  | microsecond
  | millisecond
  | second
  | minute
  | hour
  | day
  | week
  | month
  | year
  deriving DecidableEq, Repr

namespace PhraseUnit

def names : PhraseUnit → List String
  | nanosecond => ["nanos", "nsec", "ns"]
  | microsecond => ["usec", "us", "µs"]
  | millisecond => ["millis", "msec", "ms"]
  | second => ["seconds", "second", "secs", "sec", "s"]
  | minute => ["minutes", "minute", "min", "mins", "m"]
  | hour => ["hours", "hour", "hr", "hrs", "h"]
  | day => ["days", "day", "d"]
  | week => ["weeks", "week", "wk", "wks", "w"]
  | month => ["months", "month", "M"]
  | year => ["years", "year", "yr", "yrs", "y"]

def all : List PhraseUnit :=
  [nanosecond, microsecond, millisecond, second, minute, hour, day, week, month, year]

def ofName? (name : String) : Option PhraseUnit := all.find? fun u => u.names.contains name

/-- The length in nanoseconds. A year has 365.25 days, and a month is 2630016 seconds. -/
def nanos : PhraseUnit → Nat
  | nanosecond => 1
  | microsecond => 1000
  | millisecond => 1000000
  | second => 1000000000
  | minute => 60 * 1000000000
  | hour => 3600 * 1000000000
  | day => 86400 * 1000000000
  | week => 604800 * 1000000000
  | month => 2630016 * 1000000000
  | year => 31557600 * 1000000000

/-- Units below the second count in nanoseconds, the others in seconds. -/
def isSubsecond : PhraseUnit → Bool
  | nanosecond | microsecond | millisecond => true
  | _ => false

/-- Fractions of units up to the minute count in nanoseconds, those of longer ones in seconds. -/
def hasFineFraction : PhraseUnit → Bool
  | nanosecond | microsecond | millisecond | second | minute => true
  | _ => false

end PhraseUnit

namespace Phrase

/-- Why reading stops: at a fault of the text, or without an answer at all. -/
inductive Stop where
  | fault (error : PhraseError)
  | abort
  deriving DecidableEq

/-- Adds seconds and nanoseconds to a sum.

The nanoseconds are added first, within 64 bits. A full second is carried, but where they make
exactly one second the carry is left to the sum itself, which has no answer past its end. -/
def add (sum : Span) (seconds nanos : Nat) : Except Stop Span :=
  let total := sum.nanos + seconds * nanosPerSecond + nanos
  if UInt64.size ≤ sum.subsec + nanos then .error (.fault .overflow)
  else if h : total < UInt64.size * nanosPerSecond then .ok ⟨total, h⟩
  else if total = UInt64.size * nanosPerSecond ∧ sum.subsec + nanos = nanosPerSecond then
    .error .abort
  else .error (.fault .overflow)

/-- The fraction `numerator / 10 ^ places` of a part. -/
structure Fraction where
  numerator : Nat
  places : Nat

/-- A count of nanoseconds or of seconds, as seconds and nanoseconds. -/
def addCount (sum : Span) (fine : Bool) (count : Nat) : Except Stop Span :=
  if UInt64.size ≤ count then .error (.fault .overflow)
  else if fine then add sum 0 count
  else add sum count 0

/-- The length of a unit in what it counts in. -/
def grains (u : PhraseUnit) (fine : Bool) : Nat :=
  if fine then u.nanos else u.nanos / nanosPerSecond

def addWhole (sum : Span) (u : PhraseUnit) (n : Nat) : Except Stop Span :=
  addCount sum u.isSubsecond (n * grains u u.isSubsecond)

/-- A fraction has to be exact in what it counts in; a nanosecond has none. -/
def addFraction (sum : Span) (u : PhraseUnit) (f : Fraction) : Except Stop Span :=
  let product := f.numerator * grains u u.hasFineFraction
  if u = .nanosecond ∨ UInt64.size ≤ product ∨ product % Nat.pow 10 f.places ≠ 0 then
    .error (.fault .overflow)
  else addCount sum u.hasFineFraction (product / Nat.pow 10 f.places)

/-- A part whose unit has been read. -/
def addPart (sum : Span) (n : Nat) (f : Option Fraction) (name : List Char) : Except Stop Span :=
  match PhraseUnit.ofName? (String.ofList name) with
  | none =>
    if name = [] then .error (.fault (.missingUnit n))
    else .error (.fault (.unknownUnit (String.ofList name)))
  | some u => do
    let sum ← addWhole sum u n
    match f with
    | none => .ok sum
    | some f => addFraction sum u f

def isUnitLetter (c : Char) : Bool := c.isAlpha || c == 'µ'

/-- Where the reader is in the current part. The name of a unit is kept in reverse. -/
inductive State where
  /-- Before the first digit, looking since `start`. -/
  | between (start : Nat) (isFirst : Bool)
  | whole (n : Nat)
  /-- After the point; `mark` is the end of what the fraction has, or the point. -/
  | fraction (n : Nat) (f : Fraction) (mark : Nat)
  | unit (n : Nat) (f : Option Fraction) (name : List Char)

def fault {α : Type} (e : PhraseError) : Except Stop α := .error (.fault e)

/-- The end of the text. -/
def finish (sum : Span) : State → Except Stop Span
  | .between _ isFirst => if isFirst then fault .empty else .ok sum
  | .whole n => addPart sum n none []
  | .fraction n f mark =>
    if f.places = 0 then fault (.invalidCharacter mark) else addPart sum n (some f) []
  | .unit n f name => addPart sum n f name.reverse

/-- One character more, at an offset. -/
def step (sum : Span) (offset : Nat) (c : Char) : State → Except Stop (Span × State)
  | .between start isFirst =>
    if c.isDigit then .ok (sum, .whole (Digits.digit c))
    else if Text.isBlank c then .ok (sum, .between start isFirst)
    else fault (.expectedNumber start)
  | .whole n =>
    if c.isDigit then
      let n := 10 * n + Digits.digit c
      if n < UInt64.size then .ok (sum, .whole n) else fault .overflow
    else if Text.isBlank c then .ok (sum, .whole n)
    else if isUnitLetter c then .ok (sum, .unit n none [c])
    else if c = '.' then .ok (sum, .fraction n ⟨0, 0⟩ offset)
    else fault (.invalidCharacter offset)
  | .fraction n f mark =>
    if c.isDigit then
      if Nat.pow 10 (f.places + 1) < UInt64.size then
        .ok (sum, .fraction n ⟨10 * f.numerator + Digits.digit c, f.places + 1⟩
          (offset + c.utf8Size))
      else fault .overflow
    else if Text.isBlank c then .ok (sum, .fraction n f (offset + c.utf8Size))
    else if isUnitLetter c && f.places != 0 then .ok (sum, .unit n (some f) [c])
    else fault (.invalidCharacter mark)
  | .unit n f name =>
    if isUnitLetter c then .ok (sum, .unit n f (c :: name))
    else if c.isDigit then do
      let sum ← addPart sum n f name.reverse
      .ok (sum, .whole (Digits.digit c))
    else if Text.isBlank c then do
      let sum ← addPart sum n f name.reverse
      .ok (sum, .between (offset + c.utf8Size) false)
    else fault (.invalidCharacter offset)

def readFrom (sum : Span) (offset : Nat) (state : State) : List Char → Except Stop Span
  | [] => finish sum state
  | c :: cs => do
    let (sum, state) ← step sum offset c state
    readFrom sum (offset + c.utf8Size) state cs

/-- The span that a phrase names. -/
def read (cs : List Char) : Except Stop Span :=
  readFrom (.ofSeconds 0 (by decide)) 0 (.between 0 true) cs

end Phrase

end ApiGateway
