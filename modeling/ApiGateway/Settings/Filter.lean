import ApiGateway.Binary64.Decimal
import ApiGateway.Settings.Pattern
import ApiGateway.Text.Blank
import ApiGateway.Text.CaseFold

/-!
# Log filters

A filter is a list of directives between commas: a level, a target, or a target with a level, and
a span with fields in brackets, `target[span{field=value}]=level`. Only whether it can be read
matters here.
-/

set_option autoImplicit false

namespace ApiGateway

inductive FilterError where
  | directive
  | level
  | field (fault : Pattern.Fault)
  deriving DecidableEq

namespace FilterError

def message : FilterError → String
  | directive => "invalid filter directive"
  | level => "error parsing level filter: expected one of \"off\", \"error\", \"warn\", " ++
      "\"info\", \"debug\", \"trace\", or a number 0-5"
  | field .malformed => "invalid field filter: error building NFA"
  | field .wordBoundary => "invalid field filter: unsupported regex feature for DFAs: " ++
      "cannot build DFAs for regexes with Unicode word boundaries; switch to ASCII word " ++
      "boundaries, or heuristically enable Unicode word boundaries or use a different regex engine"

end FilterError

namespace Filter

def levels : List String := ["off", "error", "warn", "info", "debug", "trace"]

/-- A number that a plus sign may precede. -/
def number? (cs : List Char) : Option Nat :=
  let ds := if cs.head? = some '+' then cs.drop 1 else cs
  if ds ≠ [] ∧ ds.all Char.isDigit then some (Digits.value ds) else none

/-- The name of a level in any case, or its number. -/
def isLevel (cs : List Char) : Bool :=
  (number? cs).any (· ≤ 5) || levels.any (Text.same (String.ofList cs))

/-- The text after so many bytes. -/
def dropBytes : Nat → List Char → List Char
  | 0, cs => cs
  | _ + 1, [] => []
  | n + 1, c :: cs => dropBytes (n + 1 - c.utf8Size) cs
termination_by _ cs => cs.length

/-- The text of so many bytes at the front. -/
def takeBytes : Nat → List Char → List Char
  | 0, _ => []
  | _ + 1, [] => []
  | n + 1, c :: cs => c :: takeBytes (n + 1 - c.utf8Size) cs
termination_by _ cs => cs.length

def slice (cs : List Char) (first last : Nat) : List Char :=
  takeBytes (last - first) (dropBytes first cs)

/-- What stands between the first equals sign and the next one. -/
def fieldValue? (cs : List Char) : Option (List Char) :=
  match cs.dropWhile (· ≠ '=') with
  | [] => none
  | _ :: rest => some (rest.takeWhile (· ≠ '='))

/-- A field is a name, or a name with a number or a pattern. -/
def checkField (cs : List Char) : Except FilterError Unit :=
  if cs = [] then .error .directive
  else match fieldValue? cs with
    | none => .ok ()
    | some value =>
      if (Binary64.ofText? value).isSome then .ok ()
      else match Pattern.fault? value with
        | none => .ok ()
        | some fault => .error (.field fault)

/-- Where the reader is in a directive, with the byte at which the part began. -/
inductive State where
  | start
  | word
  | span
  | field (first : Nat)
  | fields
  | target
  | level (first : Nat)

/-- One character more, at an offset. Slices are taken from `whole`. -/
def step (whole : List Char) (offset : Nat) (c : Char) : State → Except FilterError State
  | .start =>
    if c = '[' then .ok .span
    else if c = '-' ∨ c = ':' ∨ c = '_' ∨ Unicode.isAlphanumeric c then .ok .word
    else .error .directive
  | .word =>
    if c = '=' then .ok (.level (offset + 1)) else if c = '[' then .ok .span else .ok .word
  | .span =>
    if c = ']' then .ok .target
    else if c = '\x7b' then .ok (.field (offset + 1))
    else .ok .span
  | .field first =>
    if c = '\x7d' then do
      checkField (slice whole first offset)
      .ok .fields
    else .ok (.field first)
  | .fields => if c = ']' then .ok .target else .error .directive
  | .target => if c = '=' then .ok (.level (offset + 1)) else .error .directive
  | .level first => .ok (.level first)

def run (whole : List Char) (offset : Nat) (state : State) :
    List Char → Except FilterError State
  | [] => .ok state
  | c :: cs => do
    let state ← step whole offset c state
    run whole (offset + c.utf8Size) state cs

/-- A directive. It is read without the blanks around it, but its parts are cut out of the text
with them, at the same offsets. -/
def checkDirective (cs : List Char) : Except FilterError Unit := do
  match ← run cs 0 .start (Text.trim cs) with
  | .word | .target => .ok ()
  | .level first =>
    let text := dropBytes first cs
    if text = [] ∨ isLevel text then .ok () else .error .level
  | _ => .error .directive

/-- The first directive that cannot be read decides the error; empty ones are left out. -/
def check (cs : List Char) : Except FilterError Unit :=
  ((cs.splitOn ',').filter (· ≠ [])).forM checkDirective

end Filter

end ApiGateway
