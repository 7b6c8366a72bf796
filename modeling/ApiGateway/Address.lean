import ApiGateway.Address.Domain
import ApiGateway.Address.Ip

/-!
# Addresses of hosts

Whether a text is an absolute address with the scheme `http` or `https` and a host, as the URL
standard reads it: leniently around the host, strictly on the host and port.
-/

set_option autoImplicit false

namespace ApiGateway.Address

/-- Controls and spaces around an address are ignored, and so are tabs and line ends in it. -/
def clean (cs : List Char) : List Char :=
  let isOuter (c : Char) : Bool := c.toNat ≤ 0x20
  ((cs.dropWhile isOuter).reverse.dropWhile isOuter).reverse.filter
    fun c => c ≠ '\t' && c ≠ '\n' && c ≠ '\r'

/-- What precedes the first colon, and what follows it. -/
def splitScheme? (cs : List Char) : Option (List Char × List Char) :=
  match cs.dropWhile (· ≠ ':') with
  | [] => none
  | _ :: rest => some (cs.takeWhile (· ≠ ':'), rest)

def isHttp (scheme : List Char) : Bool :=
  let lower := scheme.map Char.toLower
  lower == "http".toList || lower == "https".toList

/-- The part with the host: after any number of slashes and up to the next one, a query or a
fragment. -/
def authority (cs : List Char) : List Char :=
  (cs.dropWhile fun c => c == '/' || c == '\\').takeWhile
    fun c => c ≠ '/' && c ≠ '\\' && c ≠ '?' && c ≠ '#'

/-- What follows the last at sign. -/
def afterUser (cs : List Char) : List Char := (cs.reverse.takeWhile (· ≠ '@')).reverse

/-- The host and what follows it from the first colon outside of brackets on. -/
def splitPort (bracketed : Bool) : List Char → List Char × List Char
  | [] => ([], [])
  | c :: cs =>
    if c = ':' ∧ !bracketed then ([], c :: cs)
    else
      let (host, port) :=
        splitPort (if c = '[' then true else if c = ']' then false else bracketed) cs
      (c :: host, port)

/-- No port, or a colon and digits of a number of 16 bits; the digits may be missing. -/
def isPort : List Char → Bool
  | [] => true
  | _ :: ds => ds.all Char.isDigit && Digits.value ds < UInt16.size

def bytes (cs : List Char) : List UInt8 := cs.flatMap String.utf8EncodeChar

def hexByte? (a b : UInt8) : Option UInt8 :=
  (Digits.valueIn? 16 [Char.ofNat a.toNat, Char.ofNat b.toNat]).map UInt8.ofNat

/-- Percent signs with two hexadecimal digits are bytes; others stay. -/
def percentDecode : List UInt8 → List UInt8
  | 0x25 :: a :: b :: rest => match hexByte? a b with
    | some byte => byte :: percentDecode rest
    | none => 0x25 :: percentDecode (a :: b :: rest)
  | byte :: rest => byte :: percentDecode rest
  | [] => []

/-- The text of a host with its percent signs decoded, which has to be UTF-8. -/
def decodeHost? (cs : List Char) : Option (List Char) :=
  if cs.contains '%' then
    (String.fromUTF8? (percentDecode (bytes cs)).toByteArray).map String.toList
  else some cs

/-- A host in brackets is an IPv6 address; any other is a domain name, and an IPv4 address where
its last label is a number. -/
def isHost : List Char → Bool
  | '[' :: cs => cs.getLast? = some ']' && Ip.isV6 cs.dropLast
  | cs =>
    match decodeHost? cs >>= Domain.labels? with
    | none => false
    | some labels => labels ≠ [[]] && (!Ip.endsInNumber labels || Ip.isV4 labels)

/-- An http or https address with a host. -/
def isHttpAddress (text : String) : Bool :=
  match splitScheme? (clean text.toList) with
  | none => false
  | some (scheme, rest) =>
    let (host, port) := splitPort false (afterUser (authority rest))
    isHttp scheme && host ≠ [] && isPort port && isHost host

end ApiGateway.Address
