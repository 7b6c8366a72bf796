import ApiGateway.Address
import ApiGateway.Model.Group
import ApiGateway.Text.CaseFold
import ApiGateway.Text.Quoted

/-!
# Validation of definitions

All issues are reported, in a fixed order: the definition's own fields, then its backends.
Durations play no part. Blacklist and whitelist may both be set. Which texts are addresses of hosts
is a parameter of the checks, and `Definition.issues` asks for http(s) addresses.
-/

set_option autoImplicit false

namespace ApiGateway

structure Issue where
  path : FieldPath
  message : String
  deriving DecidableEq, Repr

namespace Issue

def display (i : Issue) : String := i.path.display ++ ": " ++ i.message

def debug (i : Issue) : String :=
  Text.record "ValidationIssue" [("path", i.path.debug), ("message", Text.quoted i.message)]

/-- The same issue seen from further up. -/
def within (base : FieldPath) (i : Issue) : Issue := ⟨base.join i.path, i.message⟩

end Issue

namespace Validation

variable {δ : Type} (isAddress : String → Bool)

def methods : List String := ["GET", "POST", "PUT", "PATCH", "DELETE", "HEAD", "OPTIONS"]
def encodings : List String := ["json", "xml"]
def lbModes : List String := ["", "rr", "wrr"]

/-- Methods are compared without regard to case. -/
def isMethod (s : String) : Bool := methods.any (Text.same s)

def startsWithSlash (s : String) : Bool := s.toList.head? = some '/'

/-- The issue of a rule that is broken. -/
def require (holds : Bool) (path : FieldPath) (message : String) : List Issue :=
  if holds then [] else [⟨path, message⟩]

def methodIssues (path : FieldPath) (method : String) : List Issue :=
  require (isMethod method) path ("unsupported method " ++ Text.quoted method)

def encodingIssues (path : FieldPath) (encoding : String) : List Issue :=
  require (encodings.contains encoding) path
    ("unsupported encoding " ++ Text.quoted encoding ++ ", expected json or xml")

def hostIssues (path : FieldPath) (h : Host) : List Issue :=
  require (h.isBlank || isAddress h.address) (path.field "host")
    ("host " ++ Text.quoted h.address ++ " is not an http(s) address")

def hostsIssues (path : FieldPath) (hosts : List Host) : List Issue :=
  (hosts.zipIdx.map fun (h, i) => hostIssues isAddress (path.index i) h).flatten

def lbModeIssues (path : FieldPath) (mode : String) : List Issue :=
  require (lbModes.contains mode) path
    ("unknown load-balancing mode " ++ Text.quoted mode ++ ", expected \"rr\" or \"wrr\"")

def urlPatternIssues (path : FieldPath) (pattern : String) : List Issue :=
  require (pattern == "" || startsWithSlash pattern) path
    ("url pattern " ++ Text.quoted pattern ++ " must start with '/'")

def backendIssues (inherited : List Host) (path : FieldPath) (b : Backend δ) : List Issue :=
  methodIssues (path.field "method") b.method ++
  encodingIssues (path.field "encoding") b.encoding ++
  lbModeIssues (path.field "lb_mode") b.lbMode ++
  urlPatternIssues (path.field "url_pattern") b.urlPattern ++
  (if b.disableHostSanitize then [] else hostsIssues isAddress (path.field "hosts") b.hosts) ++
  require (b.resolvedHosts inherited != []) (path.field "hosts")
    "no host configured on the backend or its definition"

def endpointIssues (path : FieldPath) (endpoint : String) : List Issue :=
  if endpoint = "" then [⟨path, "endpoint is required"⟩]
  else require (startsWithSlash endpoint) path
    ("endpoint " ++ Text.quoted endpoint ++ " must start with '/'")

end Validation

namespace Definition

variable {δ : Type}

open Validation in
/-- Everything that is wrong with a definition, where `isAddress` tells the addresses of hosts. -/
def issuesFor (isAddress : String → Bool) (d : Definition δ) : List Issue :=
  require (!Text.allBlank d.name) (FieldPath.root.field "name") "name is required" ++
  endpointIssues (FieldPath.root.field "endpoint") d.endpoint ++
  methodIssues (FieldPath.root.field "method") d.method ++
  encodingIssues (FieldPath.root.field "output_encoding") d.outputEncoding ++
  hostsIssues isAddress (FieldPath.root.field "hosts") d.hosts ++
  require (!d.backends.isEmpty) (FieldPath.root.field "backend")
    "at least one backend is required" ++
  (d.backends.zipIdx.map fun (b, i) =>
    backendIssues isAddress d.hosts ((FieldPath.root.field "backend").index i) b).flatten

def issues (d : Definition δ) : List Issue := d.issuesFor Address.isHttpAddress

def isValid (d : Definition δ) : Bool := d.issues.isEmpty

end Definition

end ApiGateway
