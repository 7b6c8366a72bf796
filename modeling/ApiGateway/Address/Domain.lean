import ApiGateway.Address.Punycode
import ApiGateway.Unicode.Bidi
import ApiGateway.Unicode.Classes
import ApiGateway.Unicode.DomainMapping
import ApiGateway.Unicode.Joining

/-!
# Domain names

The labels of a name after UTS 46 processing, without transitional mappings, with the rules on
joiners and writing direction and without those on hyphens and lengths. A label that was spelled
in ASCII is decoded.
-/

set_option autoImplicit false

namespace ApiGateway.Domain

/-- ASCII characters that no name may hold. -/
def isForbidden (c : Char) : Bool :=
  c.toNat ≤ 0x20 || c.toNat == 0x7f || "%#/:<>?@[\\]^|".toList.contains c

def isAscii (cs : List Char) : Bool := cs.all fun c => c.toNat < 0x80

/-- Maps every character, and composes what has more than ASCII. -/
def map? (cs : List Char) : Option (List Char) := do
  let mapped ← cs.mapM Unicode.mapForDomain?
  let cs := mapped.flatten
  return if isAscii cs then cs else Unicode.normalize cs

/-- What a label in another script has to be: it starts with no mark, and joiners stand where they
may. -/
def isWellFormed (label : List Char) : Bool :=
  !label.head?.any Unicode.isMark && Unicode.joinersFit [] label

def encodedMark : List Char := "xn--".toList

/-- The longest label, in characters, that is spelled in ASCII, and the longest such spelling. -/
def maxDecoded : Nat := 1000
def maxEncoded : Nat := 2000

/-- A label as it reads in its own script. An encoded one must hold more than ASCII and be in the
form that mapping and composition leave alone. -/
def readLabel? (label : List Char) : Option (List Char) :=
  if encodedMark.isPrefixOf label then
    let spelling := label.drop 4
    if !isAscii label || maxEncoded < spelling.length then none
    else match Punycode.decode? spelling with
      | none => none
      | some decoded =>
        if !isAscii decoded && !encodedMark.isPrefixOf decoded &&
            decoded.all Unicode.staysInDomain && Unicode.normalize decoded == decoded &&
            isWellFormed decoded then some decoded
        else none
  else if isAscii label then some label
  else if isWellFormed label && label.length ≤ maxDecoded then some label
  else none

def isBidirectional (label : List Char) : Bool :=
  label.any fun c => (Unicode.BidiClass.of c).isRightward

/-- The labels of a name, if it is one. -/
def labels? (cs : List Char) : Option (List (List Char)) := do
  let mapped ← map? cs
  if mapped.any isForbidden then none
  let labels ← (mapped.splitOn '.').mapM readLabel?
  if labels.any isBidirectional && !labels.all Unicode.followsBidiRule then none
  return labels

end ApiGateway.Domain
