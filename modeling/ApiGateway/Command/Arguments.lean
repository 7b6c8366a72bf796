import ApiGateway.Command

/-!
# Arguments

A settings file may be named before the command; after it come the file of the document and, where
the command takes one, a flag for a single definition, in either order.
-/

set_option autoImplicit false

namespace ApiGateway

/-- A command with the files that it works on. -/
structure Invocation where
  settingsFile : Option String
  command : Command
  documentFile : String
  deriving DecidableEq, Repr

namespace Invocation

def isOption (s : String) : Bool := s.startsWith "-" && s != "-"

/-- The command of a name, for a group or a single definition. -/
def command? (name : String) : Content → Option Command
  | content =>
    if name = "receive" then some (.receive content)
    else if name = "send" then some (.send content)
    else if name = "validate" ∧ content = .group then some .validate
    else none

/-- The file and the content that the arguments of a command name. -/
def document? : List String → Option (String × Content)
  | [file] => if isOption file then none else some (file, .group)
  | [a, b] =>
    if b = "--definition" ∧ !isOption a then some (a, .definition)
    else if a = "--definition" ∧ !isOption b then some (b, .definition)
    else none
  | _ => none

def ofCommand? (settingsFile : Option String) : List String → Option Invocation
  | [] => none
  | name :: arguments => do
    let (documentFile, content) ← document? arguments
    return { settingsFile, command := ← command? name content, documentFile }

/-- What the arguments ask for; `none` where they make no sense. -/
def ofArguments? : List String → Option Invocation
  | option :: file :: arguments =>
    if option = "--config" ∨ option = "-c" then
      if isOption file then none else ofCommand? (some file) arguments
    else ofCommand? none (option :: file :: arguments)
  | arguments => ofCommand? none arguments

def usage : String :=
  "usage: [--config FILE] receive|send FILE [--definition]\n       [--config FILE] validate FILE\n"

/-- The exit code of arguments that make no sense. -/
def usageCode : UInt32 := 2

end Invocation

end ApiGateway
