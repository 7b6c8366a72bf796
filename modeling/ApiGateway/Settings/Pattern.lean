import ApiGateway.Text.Digits
import ApiGateway.Unicode.Classes

/-!
# Syntax of patterns

Whether a text is a regular expression that an automaton can be built from. Patterns come from
between braces and around an equals sign, so neither of these stands in them.
-/

set_option autoImplicit false

namespace ApiGateway.Pattern

/-- What a pattern can be refused for. -/
inductive Fault where
  | malformed
  /-- A boundary of words, which depends on more than one character at a time. -/
  | wordBoundary
  deriving DecidableEq

/-- Classes that a letter after a backslash names. -/
def isClassLetter (c : Char) : Bool := "dswDSW".toList.contains c

/-- Letters after a backslash that stand for a control character. -/
def isControlLetter (c : Char) : Bool := "aftnrv".toList.contains c

/-- ASCII signs may follow a backslash and then stand for themselves. -/
def isEscapable (c : Char) : Bool :=
  0x20 ≤ c.toNat && c.toNat < 0x7f && !c.isAlphanum && c ≠ '<' && c ≠ '>' || c.toNat < 0x20 ||
    c.toNat == 0x7f

/-- The number of digits of a code point after `x`, `u` or `U`. -/
def codeLength? (c : Char) : Option Nat :=
  if c = 'x' then some 2 else if c = 'u' then some 4 else if c = 'U' then some 8 else none

/-- The code point of exactly so many hexadecimal digits. -/
def codePoint? (count : Nat) (cs : List Char) : Option Nat := do
  if cs.length < count then none
  return (← Unicode.char? (← Digits.valueIn? 16 (cs.take count))).toNat

def controlOf (c : Char) : Nat :=
  if c = 'a' then 7 else if c = 'f' then 12 else if c = 't' then 9 else if c = 'n' then 10
  else if c = 'r' then 13 else 11

/-- General categories that one letter names. -/
def isCategoryLetter (c : Char) : Bool := "CLMNPSZclmnpsz".toList.contains c

/-- What an escape is, and the number of characters after the backslash that it takes. -/
inductive Escape where
  | literal (code length : Nat)
  | category (length : Nat)
  | anchor
  | wordBoundary
  deriving DecidableEq

def escape? : List Char → Option Escape
  | [] => none
  | c :: rest =>
    match codeLength? c with
    | some count => (codePoint? count rest).map fun n => .literal n (count + 1)
    | none =>
      if c = 'p' ∨ c = 'P' then
        match rest with
        | d :: _ => if isCategoryLetter d then some (.category 2) else none
        | [] => none
      else if isClassLetter c then some (.category 1)
      else if isControlLetter c then some (.literal (controlOf c) 1)
      else if c = 'A' ∨ c = 'z' then some .anchor
      else if c = 'b' ∨ c = 'B' ∨ c = '<' ∨ c = '>' then some .wordBoundary
      else if isEscapable c then some (.literal c.toNat 1)
      else none

/-- Names of ASCII classes within brackets. -/
def asciiClasses : List String :=
  ["alnum", "alpha", "ascii", "blank", "cntrl", "digit", "graph", "lower", "print", "punct",
    "space", "upper", "word", "xdigit"]

/-- What follows an ASCII class such as `[:alpha:]`, if there is one after an opening bracket. -/
def asciiClass? (cs : List Char) : Option (List Char) :=
  match cs with
  | ':' :: rest =>
    let rest := match rest with
      | '^' :: rest => rest
      | rest => rest
    let name := rest.takeWhile Char.isAlpha
    match rest.dropWhile Char.isAlpha with
    | ':' :: ']' :: rest =>
      if asciiClasses.contains (String.ofList name) then some rest else none
    | _ => none
  | _ => none

/-- An item of a bracketed class: a character, or a class of its own; and what follows it. -/
def classItem? : List Char → Option (Option Nat × List Char)
  | [] => none
  | '\\' :: rest =>
    match escape? rest with
    | some (.literal code length) => some (some code, rest.drop length)
    | some (.category length) => some (none, rest.drop length)
    | _ => none
  | c :: rest => some (some c.toNat, rest)

/-- Passes over the end of a bracketed class, so many brackets deep. At its start, after the sign
of negation and hyphens, a closing bracket stands for itself. -/
def classRest? : Nat → Nat → Bool → List Char → Option (List Char)
  | 0, _, _, _ => none
  | _, 0, _, cs => some cs
  | fuel + 1, depth + 1, atStart, cs =>
    match cs with
    | [] => none
    | ']' :: rest =>
      if atStart then classRange? fuel (depth + 1) (']' :: rest)
      else classRest? fuel depth false rest
    | '[' :: rest =>
      match asciiClass? rest with
      | some rest => classRest? fuel (depth + 1) false rest
      | none =>
        let rest := match rest with
          | '^' :: rest => rest
          | rest => rest
        classRest? fuel (depth + 2) true (rest.dropWhile (· = '-'))
    | '&' :: '&' :: rest | '~' :: '~' :: rest => classRest? fuel (depth + 1) false rest
    | '-' :: '-' :: rest =>
      if atStart then classRange? fuel (depth + 1) cs else classRest? fuel (depth + 1) false rest
    | cs => classRange? fuel (depth + 1) cs
where
  /-- An item, or two with a hyphen between them, which have to ascend. -/
  classRange? (fuel depth : Nat) (cs : List Char) : Option (List Char) :=
    match fuel with
    | 0 => none
    | fuel + 1 =>
      match classItem? cs with
      | none => none
      | some (first, rest) =>
        match rest with
        | '-' :: ']' :: _ => classRest? fuel depth false rest
        | '-' :: '-' :: _ => classRest? fuel depth false rest
        | '-' :: next =>
          match first, classItem? next with
          | some a, some (some b, rest) =>
            if a ≤ b then classRest? fuel depth false rest else none
          | _, _ => none
        | rest => classRest? fuel depth false rest

/-- What follows a bracketed class, after its opening bracket. -/
def skipClass? (cs : List Char) : Option (List Char) :=
  let cs' := match cs with
    | '^' :: rest => rest
    | rest => rest
  classRest? (2 * cs.length + 2) 1 true (cs'.dropWhile (· = '-'))

def isNameStart (c : Char) : Bool := c == '_' || (Unicode.isAlphanumeric c && !c.isDigit)

def isNameChar (c : Char) : Bool :=
  isNameStart c || c.isDigit || c == '.' || c == '[' || c == ']'

/-- What follows the name of a group and its closing bracket. -/
def skipName? (cs : List Char) : Option (List Char) :=
  let name := cs.takeWhile isNameChar
  match cs.dropWhile isNameChar with
  | '>' :: rest => if name.head?.any isNameStart then some rest else none
  | _ => none

/-- The letters of flags: each at most once, and a hyphen only before others. -/
def areFlags (cs : List Char) : Bool :=
  let letters := cs.filter (· ≠ '-')
  cs ≠ [] && letters.all ("imsUuRx".toList.contains ·) && letters.Nodup &&
    cs.length ≤ letters.length + 1 && cs.getLast? ≠ some '-'

/-- How a group starts, after its opening bracket: whether it is one, or only sets flags. -/
def groupStart? : List Char → Option (Bool × List Char)
  | '?' :: 'P' :: '<' :: rest => (skipName? rest).map (true, ·)
  | '?' :: '<' :: rest => (skipName? rest).map (true, ·)
  | '?' :: ':' :: rest => some (true, rest)
  | '?' :: rest =>
    let flags := rest.takeWhile fun c => c.isAlpha || c == '-'
    match rest.dropWhile fun c => c.isAlpha || c == '-' with
    | ':' :: rest => if areFlags flags then some (true, rest) else none
    | ')' :: rest => if areFlags flags then some (false, rest) else none
    | _ => none
  | rest => some (true, rest)

/-- Checks what is left of a pattern, inside so many groups; something has to stand before a sign
of repetition. -/
def check : Nat → Nat → Bool → Bool → List Char → Option Fault
  | 0, _, _, _, _ => some .malformed
  | fuel + 1, depth, repeats, boundary, cs =>
    match cs with
    | [] =>
      if depth ≠ 0 then some .malformed else if boundary then some .wordBoundary else none
    | '(' :: rest =>
      match groupStart? rest with
      | none => some .malformed
      | some (true, rest) => check fuel (depth + 1) false boundary rest
      | some (false, rest) => check fuel depth false boundary rest
    | ')' :: rest =>
      if depth = 0 then some .malformed else check fuel (depth - 1) true boundary rest
    | '|' :: rest => check fuel depth false boundary rest
    | '*' :: rest | '+' :: rest | '?' :: rest =>
      if repeats then check fuel depth true boundary rest else some .malformed
    | '\x7b' :: _ => some .malformed
    | '[' :: rest =>
      match skipClass? rest with
      | none => some .malformed
      | some rest => check fuel depth true boundary rest
    | '\\' :: rest =>
      match escape? rest with
      | none => some .malformed
      | some (.literal _ length) | some (.category length) =>
        check fuel depth true boundary (rest.drop length)
      | some .anchor => check fuel depth true boundary (rest.drop 1)
      | some .wordBoundary => check fuel depth true true (rest.drop 1)
    | _ :: rest => check fuel depth true boundary rest

/-- What is wrong with a pattern, if anything is. -/
def fault? (cs : List Char) : Option Fault := check (cs.length + 1) 0 false false cs

end ApiGateway.Pattern
