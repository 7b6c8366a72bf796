import ApiGateway.Unicode.CodePoints

/-!
# Punycode

Decoding of labels that spell other scripts in ASCII: letters before the last hyphen, then numbers
in base 36 that say which character goes where. Counters have 32 bits.
-/

set_option autoImplicit false

namespace ApiGateway.Punycode

def digit? (c : Char) : Option Nat :=
  if 'a' ≤ c ∧ c ≤ 'z' then some (c.toNat - 'a'.toNat)
  else if c.isDigit then some (c.toNat - '0'.toNat + 26)
  else none

/-- The least digit that continues a number at its `k`-th place. -/
def threshold (k bias : Nat) : Nat :=
  if k ≤ bias then 1 else if bias + 26 ≤ k then 26 else k - bias

/-- How often 35 divides `delta` until it is below 456, and what is left. -/
def shrink (delta k : Nat) : Nat × Nat :=
  if h : 455 < delta then shrink (delta / 35) (k + 36) else (delta, k)
termination_by delta
decreasing_by omega

/-- The bias after an insertion, which follows the size of the last numbers. -/
def adapt (delta count : Nat) (isFirst : Bool) : Nat :=
  let delta := if isFirst then delta / 700 else delta / 2
  let (delta, k) := shrink (delta + delta / count) 0
  k + 36 * delta / (delta + 38)

/-- Reads one number onto `i`, and leaves what follows it. -/
def readNumber (bias i weight k : Nat) : List Char → Option (Nat × List Char)
  | [] => none
  | c :: rest =>
    match digit? c with
    | none => none
    | some digit =>
      let i := i + digit * weight
      let t := threshold k bias
      if UInt32.size ≤ i then none
      else if digit < t then some (i, rest)
      else if UInt32.size ≤ weight * (36 - t) then none
      else readNumber bias i (weight * (36 - t)) (k + 36) rest

theorem readNumber_length {bias i weight k j : Nat} {cs rest : List Char}
    (h : readNumber bias i weight k cs = some (j, rest)) : rest.length < cs.length := by
  fun_induction readNumber bias i weight k cs <;> grind

/-- Inserts the characters that the numbers name into `done`. -/
def insertAll (code i bias : Nat) (done : List Char) (cs : List Char) : Option (List Char) :=
  match cs with
  | [] => some done
  | c :: rest =>
    match _h : readNumber bias i 1 36 (c :: rest) with
    | none => none
    | some (j, rest') =>
      let count := done.length + 1
      let code := code + j / count
      match Unicode.char? code with
      | none => none
      | some d =>
        insertAll code (j % count + 1) (adapt (j - i) count (i == 0))
          (done.take (j % count) ++ d :: done.drop (j % count)) rest'
termination_by cs.length
decreasing_by exact readNumber_length _h

/-- Splits at the last hyphen, which goes; with none, or only a leading one, nothing precedes. -/
def splitBasic (cs : List Char) : List Char × List Char :=
  let after := (cs.reverse.takeWhile (· ≠ '-')).reverse
  let basic := cs.take (cs.length - after.length - 1)
  if basic = [] then ([], cs) else (basic, after)

def decode? (cs : List Char) : Option (List Char) :=
  let (basic, numbers) := splitBasic cs
  insertAll 128 0 72 basic numbers

end ApiGateway.Punycode
