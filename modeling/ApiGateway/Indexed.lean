/-!
# Lists by position

A step that may fail, taken on every item with its position, up to the first failure.
-/

set_option autoImplicit false

namespace ApiGateway.Indexed

variable {α β ε : Type}

def traverseFrom (f : Nat → α → Except ε β) : Nat → List α → Except ε (List β)
  | _, [] => .ok []
  | i, a :: as => do
    let b ← f i a
    let bs ← traverseFrom f (i + 1) as
    .ok (b :: bs)

def traverse (f : Nat → α → Except ε β) (as : List α) : Except ε (List β) := traverseFrom f 0 as

end ApiGateway.Indexed
