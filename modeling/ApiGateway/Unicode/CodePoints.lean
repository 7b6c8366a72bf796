/-!
# Sets and maps of code points

Tables are ascending ranges, written as hexadecimal words: the gap since the last range, the
length of the range and, in a map, its value. A look-up halves the ranges that are left.
-/

set_option autoImplicit false

namespace ApiGateway.Unicode

/-- The character of a code point; surrogates have none. -/
def char? (code : Nat) : Option Char :=
  if code < 0xd800 ∨ (0xdfff < code ∧ code < 0x110000) then some (Char.ofNat code) else none

/-- Disjoint ascending ranges of code points, both ends included, with a value each. -/
structure CodePointMap (α : Type) where
  ranges : Array (Nat × Nat × α)

namespace CodePointMap

variable {α : Type}

def search (ranges : Array (Nat × Nat × α)) (code low high : Nat) : Option α :=
  if low < high then
    match ranges[(low + high) / 2]? with
    | none => none
    | some (first, last, value) =>
      if code < first then search ranges code low ((low + high) / 2)
      else if last < code then search ranges code ((low + high) / 2 + 1) high
      else some value
  else none
termination_by high - low

def find? (map : CodePointMap α) (c : Char) : Option α :=
  search map.ranges c.toNat 0 map.ranges.size

end CodePointMap

abbrev CodePointSet := CodePointMap Unit

def CodePointSet.contains (set : CodePointSet) (c : Char) : Bool := (set.find? c).isSome

def hexDigit (c : Char) : Nat := if c.isDigit then c.toNat - 48 else c.toNat - 87

def hexValue (word : String) : Nat := word.foldl (fun n c => 16 * n + hexDigit c) 0

/-- The numbers written in lines of hexadecimal words. -/
def hexWords (lines : List String) : List Nat :=
  lines.flatMap fun line => (line.splitOn " ").map hexValue

namespace CodePointSet

def rangesFrom : Nat → List Nat → List (Nat × Nat × Unit)
  | start, gap :: length :: rest =>
    (start + gap, start + gap + length - 1, ()) :: rangesFrom (start + gap + length) rest
  | _, _ => []

def ofGaps (lines : List String) : CodePointSet := ⟨(rangesFrom 0 (hexWords lines)).toArray⟩

end CodePointSet

namespace CodePointMap

def rangesFrom : Nat → List Nat → List (Nat × Nat × Nat)
  | start, gap :: length :: value :: rest =>
    (start + gap, start + gap + length - 1, value) :: rangesFrom (start + gap + length) rest
  | _, _ => []

def ofGaps (lines : List String) : CodePointMap Nat := ⟨(rangesFrom 0 (hexWords lines)).toArray⟩

end CodePointMap

end ApiGateway.Unicode
