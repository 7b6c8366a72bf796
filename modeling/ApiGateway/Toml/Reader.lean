import ApiGateway.Toml.Scalars
import ApiGateway.Toml.Strings

/-!
# Reading TOML

Version 1.0. Arrays may span lines and end in a comma; inline tables may not. Values nest, and
keys have points, fewer than 80 deep.
-/

set_option autoImplicit false

namespace ApiGateway.Toml

def maxDepth : Nat := 80

/-- What follows a comment up to the end of its line, which is left. -/
def skipComment : List Char → List Char
  | '#' :: cs => cs.dropWhile isTextChar
  | cs => cs

/-- Passes over blanks, comments and line ends. A comment has to end with its line. -/
def skipLines : Nat → List Char → List Char
  | 0, cs => cs
  | fuel + 1, cs =>
    let cs := skipSpaces cs
    match lineEnd? (skipComment cs) with
    | some rest => skipLines fuel rest
    | none => cs

/-- The rest of a line: blanks and a comment. -/
def finishLine? (cs : List Char) : Option (List Char) :=
  match skipComment (skipSpaces cs) with
  | [] => some []
  | cs => lineEnd? cs

def readPath (cs : List Char) : Option (List String × List Char) := do
  let (path, rest) ← readKey (cs.length + 1) cs
  if maxDepth ≤ path.length then none else some (path, rest)

mutual

/-- A value, and what follows it. -/
def readValue : Nat → Nat → List Char → Option (Node × List Char)
  | 0, _, _ => none
  | fuel + 1, depth, cs =>
    match cs with
    | '"' :: _ | '\'' :: _ => (readString cs).map fun (s, rest) => (.string s, rest)
    | '[' :: rest =>
      if maxDepth ≤ depth + 1 then none
      else (readItems fuel (depth + 1) rest).map fun (items, rest) => (.array items, rest)
    | '\x7b' :: rest =>
      if maxDepth ≤ depth + 1 then none
      else match skipSpaces rest with
        | '\x7d' :: rest => some (.inline [], rest)
        | rest => do
          let (pairs, rest) ← readPairs fuel (depth + 1) rest
          return (← buildInline pairs, rest)
    | cs => readScalar cs

/-- The items of an array, up to its end. -/
def readItems : Nat → Nat → List Char → Option (List Node × List Char)
  | 0, _, _ => none
  | fuel + 1, depth, cs =>
    match skipLines cs.length cs with
    | ']' :: rest => some ([], rest)
    | cs => do
      let (item, rest) ← readValue fuel depth cs
      match skipLines rest.length rest with
      | ']' :: rest => some ([item], rest)
      | ',' :: rest => (readItems fuel depth rest).map fun (items, rest) => (item :: items, rest)
      | _ => none

/-- The assignments of an inline table up to its end, at least one. -/
def readPairs : Nat → Nat → List Char → Option (List (List String × Node) × List Char)
  | 0, _, _ => none
  | fuel + 1, depth, cs => do
    let (path, rest) ← readPath cs
    let (value, rest) ← readValue fuel depth (skipSpaces (← skip? '=' rest))
    match skipSpaces rest with
    | '\x7d' :: rest => some ([(path, value)], rest)
    | ',' :: rest =>
      (readPairs fuel depth rest).map fun (pairs, rest) => ((path, value) :: pairs, rest)
    | _ => none

end

/-- A statement, and what follows its line. -/
def readStatement (cs : List Char) : Option (Statement × List Char) :=
  match cs with
  | '[' :: '[' :: rest => do
    let (path, rest) ← readPath rest
    let rest ← finishLine? (← skip? ']' (← skip? ']' rest))
    return (.arrayHeader path, rest)
  | '[' :: rest => do
    let (path, rest) ← readPath rest
    let rest ← finishLine? (← skip? ']' rest)
    return (.header path, rest)
  | cs => do
    let (path, rest) ← readPath cs
    let rest := skipSpaces (← skip? '=' rest)
    let (value, rest) ← readValue (2 * rest.length + 1) 0 rest
    return (.assign path value, ← finishLine? rest)

def readStatements : Nat → List Char → Option (List Statement)
  | 0, _ => none
  | fuel + 1, cs =>
    match skipLines cs.length cs with
    | [] => some []
    | '#' :: cs => if (skipComment ('#' :: cs)).isEmpty then some [] else none
    | cs => do
      let (statement, rest) ← readStatement cs
      return statement :: (← readStatements fuel rest)

/-- The entries of a document. A byte order mark in front is passed over. -/
def parse? (text : String) : Option (List (String × Node)) := do
  let cs := match text.toList with
    | '\ufeff' :: cs => cs
    | cs => cs
  return (← build (← readStatements (cs.length + 1) cs)).entries

end ApiGateway.Toml
