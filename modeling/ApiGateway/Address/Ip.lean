import ApiGateway.Text.Digits

/-!
# IP addresses

IPv4 addresses have up to four numbers, decimal, octal or hexadecimal, the last of which fills the
bytes that are left. IPv6 addresses have eight groups; one `::` stands for at least one group, and
a dotted address for the last two.
-/

set_option autoImplicit false

namespace ApiGateway.Ip

/-- A number in one of the three bases; `0x` alone is zero. -/
def number? (cs : List Char) : Option Nat :=
  match cs with
  | [] => none
  | '0' :: 'x' :: ds | '0' :: 'X' :: ds => Digits.valueIn? 16 ds
  | ['0'] => some 0
  | '0' :: ds => Digits.valueIn? 8 ds
  | ds => Digits.valueIn? 10 ds

/-- The labels without the empty one that a final point leaves. -/
def dropFinalEmpty (labels : List (List Char)) : List (List Char) :=
  if labels.getLast? = some [] then labels.dropLast else labels

/-- Names whose last label is a number, or looks like one, have to be IPv4 addresses. -/
def endsInNumber (labels : List (List Char)) : Bool :=
  match (dropFinalEmpty labels).getLast? with
  | none => false
  | some last => (last ≠ [] && last.all Char.isDigit) || (number? last).isSome

def isV4 (labels : List (List Char)) : Bool :=
  match (dropFinalEmpty labels).mapM number? with
  | none => false
  | some numbers =>
    match numbers.reverse with
    | [] => false
    | last :: others =>
      others.length ≤ 3 && others.all (· ≤ 255) && last < Nat.pow 256 (4 - others.length)

/-- Four decimal bytes without leading zeros. -/
def isDotted (cs : List Char) : Bool :=
  let isByte (ds : List Char) : Bool :=
    ds ≠ [] && ds.all Char.isDigit && (ds.length == 1 || ds.head? ≠ some '0') &&
      Digits.value ds ≤ 255
  let pieces := cs.splitOn '.'
  pieces.length == 4 && pieces.all isByte

/-- Up to four hexadecimal digits at the front, and what follows them. -/
def splitGroup (cs : List Char) : List Char × List Char :=
  let group := (cs.take 4).takeWhile Digits.isHex
  (group, cs.drop group.length)

/-- The groups that are left, after `seen` groups; a `::` that was seen counts as one of them. -/
def groupsFit (seen : Nat) (compressed : Bool) (cs : List Char) : Bool :=
  match cs with
  | [] => compressed || seen == 8
  | c :: rest =>
    if 8 ≤ seen then false
    else if c = ':' then !compressed && groupsFit (seen + 1) true rest
    else
      let group := (splitGroup (c :: rest)).1
      match h : (splitGroup (c :: rest)).2 with
      | [] => compressed || seen == 7
      | '.' :: _ => group ≠ [] && seen ≤ 6 && isDotted (c :: rest) && (compressed || seen == 6)
      | ':' :: next => next ≠ [] && groupsFit (seen + 1) compressed next
      | _ :: _ => false
termination_by cs.length
decreasing_by
  · exact Nat.lt_succ_self _
  · have := congrArg List.length h
    simp only [splitGroup, List.length_drop, List.length_cons] at this ⊢
    omega

/-- The text between the brackets of an IPv6 address. -/
def isV6 (cs : List Char) : Bool :=
  match cs with
  | ':' :: ':' :: rest => groupsFit 1 true rest
  | ':' :: _ => false
  | cs => groupsFit 0 false cs

end ApiGateway.Ip
