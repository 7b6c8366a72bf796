import ApiGateway.Text.Quoted

/-!
# Paths to fields

The place of a field in a document, such as `definitions[0].backend[1].timeout`. The root is the
empty text.
-/

set_option autoImplicit false

namespace ApiGateway

structure FieldPath where
  text : String
  deriving DecidableEq, Repr

namespace FieldPath

def root : FieldPath := ⟨""⟩

def isRoot (p : FieldPath) : Bool := p.text == ""

/-- A named field; the point between names is left out at the root. -/
def field (p : FieldPath) (name : String) : FieldPath :=
  if p.text = "" then ⟨name⟩ else ⟨p.text ++ "." ++ name⟩

def index (p : FieldPath) (i : Nat) : FieldPath := ⟨p.text ++ "[" ++ toString i ++ "]"⟩

/-- The place `q`, seen from `p`. -/
def join (p q : FieldPath) : FieldPath :=
  if q.text = "" then p
  else if p.text = "" ∨ q.text.toList.head? = some '[' then ⟨p.text ++ q.text⟩
  else ⟨p.text ++ "." ++ q.text⟩

/-- The path as messages show it. -/
def display (p : FieldPath) : String := if p.isRoot then "<root>" else p.text

def debug (p : FieldPath) : String := Text.tuple "FieldPath" [Text.quoted p.text]

inductive Step where
  | field (name : String)
  | index (i : Nat)
  deriving DecidableEq

def step (p : FieldPath) : Step → FieldPath
  | .field name => p.field name
  | .index i => p.index i

/-- The path that steps lead to from `p`. -/
def walk (p : FieldPath) (steps : List Step) : FieldPath := steps.foldl step p

end FieldPath

end ApiGateway
