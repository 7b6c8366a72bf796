import ApiGateway.Catalog.Duplicates
import ApiGateway.Catalog.Storage
import ApiGateway.Json.Printer
import ApiGateway.Json.Reader
import ApiGateway.Settings

/-!
# Commands

A command works on the text of one document under given settings. What it prints and with which
code it ends is plain data; files and streams are no concern of it.
-/

set_option autoImplicit false

namespace ApiGateway

/-- What the document of a command holds. -/
inductive Content where
  | group
  | definition
  deriving DecidableEq, Repr

inductive Command where
  | receive (content : Content)
  | send (content : Content)
  | validate
  deriving DecidableEq, Repr

/-- Why a command came to no outcome. -/
inductive CommandError where
  | settings (error : SettingsError)
  | file (error : FileError)
  | notJson
  | document (error : DocumentError)
  | catalog (error : CatalogError)
  deriving DecidableEq

inductive Outcome where
  | printed (document : Json) (pretty : Bool)
  | accepted
  | rejected (issues : List Issue)

namespace CommandError

def isAbort : CommandError → Bool
  | document e => e.isAbort
  | catalog e => e.isAbort
  | _ => false

/-- Where a text fails to be JSON is not known, so only the kind of error is left of it. -/
def debug : CommandError → String
  | settings e => e.debug
  | file e => e.debug
  | notJson => "Error"
  | document e => e.debug
  | catalog e => e.debug

/-- The text for standard error, which is meant for developers. -/
def report (e : CommandError) : String :=
  if e.isAbort then DurationError.abort.message else "Error: " ++ e.debug

def exitCode (e : CommandError) : UInt32 := if e.isAbort then 101 else 1

end CommandError

namespace Outcome

def exitCode : Outcome → UInt32
  | printed .. => 0
  | accepted => 0
  | rejected _ => 1

/-- What goes to standard output: a printed document is one line more than its JSON text. -/
def output : Outcome → String
  | printed document pretty => (if pretty then document.pretty else document.compact) ++ "\n"
  | _ => ""

def issues : Outcome → List Issue
  | rejected issues => issues
  | _ => []

end Outcome

/-- The line that reports an issue. -/
def Issue.line (i : Issue) : String := "error: " ++ i.display

namespace Settings

/-- Prints a document unless it has issues that matter. -/
def emit (s : Settings) (issues : List Issue) (document : Json) : Outcome :=
  if s.validatesOnSend ∧ issues ≠ [] then .rejected issues else .printed document s.pretty

end Settings

namespace Command

/-- A received document is printed with its keys in order. -/
def receiveDocument (s : Settings) (raw : Json) : Content → Hydrated Outcome
  | .group => (Group.load raw).map fun g => .printed (toJson g) s.pretty
  | .definition => (Definition.load raw).map fun d => .printed (toJson d) s.pretty

/-- A sent document is printed with its fields in their own order. -/
def sendDocument (s : Settings) (raw : Json) : Content → Hydrated Outcome
  | .group => (Group.prepare raw).map fun g =>
    s.emit (g.definitions.flatMap Definition.issues) (g.encode .object)
  | .definition => (Definition.prepare raw).map fun d => s.emit d.issues (d.encode .object)

def validateDocument (raw : Json) : Except CatalogError Outcome :=
  (Catalog.load raw).map fun c => if c.issues = [] then .accepted else .rejected c.issues

/-- What a command does with the text of a document. -/
def run (c : Command) (s : Settings) (text : String) : Except CommandError Outcome :=
  match Json.parse? text with
  | none => .error .notJson
  | some raw =>
    match c with
    | receive content => (receiveDocument s raw content).mapError .document
    | send content => (sendDocument s raw content).mapError .document
    | validate => (validateDocument raw).mapError .catalog

/-- The same from the contents of the files. Without a settings file the settings are the standard
ones, and a fault in it is found before the document is looked at. -/
def runFiles (c : Command) (settings : Option (Option ByteArray)) (document : Option ByteArray) :
    Except CommandError Outcome := do
  let s ← match settings with
    | none => .ok Settings.standard
    | some content => (Settings.ofContent content).mapError .settings
  c.run s (← (textOfContent document).mapError .file)

end Command

end ApiGateway
