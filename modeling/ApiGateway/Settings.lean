import ApiGateway.Json
import ApiGateway.Settings.Filter
import ApiGateway.Text.Quoted
import ApiGateway.Toml.Reader

/-!
# Settings

The settings of the command line, read from a TOML file. Everything has a default, and keys that
are not known are passed over. A section may also be an array of its fields in order.
-/

set_option autoImplicit false

namespace ApiGateway

inductive LogFormat where
  | pretty
  | json
  deriving DecidableEq, Repr

structure Observability where
  logLevel : String
  logFormat : LogFormat
  deriving DecidableEq, Repr

structure Settings where
  observability : Observability
  /-- Printed documents are indented. -/
  pretty : Bool
  /-- Definitions are validated before they are sent. -/
  validatesOnSend : Bool
  deriving DecidableEq, Repr

/-- A setting that makes no sense. -/
structure SettingsIssue where
  field : String
  message : String
  deriving DecidableEq, Repr

def SettingsIssue.display (i : SettingsIssue) : String := i.field ++ ": " ++ i.message

def SettingsIssue.debug (i : SettingsIssue) : String :=
  Text.record "ValidationError" [("field", Text.quoted i.field), ("message", Text.quoted i.message)]

/-- Why a file has no text. -/
inductive FileError where
  | missing
  | notText
  deriving DecidableEq

namespace FileError

def message : FileError → String
  | missing => "No such file or directory (os error 2)"
  | notText => "stream did not contain valid UTF-8"

def debug : FileError → String
  | missing => Text.record "Os"
      [("code", "2"), ("kind", "NotFound"), ("message", Text.quoted "No such file or directory")]
  | notText => Text.record "Error"
      [("kind", "InvalidData"), ("message", Text.quoted (message notText))]

end FileError

/-- The text of a file with this content, if it exists. -/
def textOfContent : Option ByteArray → Except FileError String
  | none => .error .missing
  | some content => (String.fromUTF8? content).elim (.error .notText) .ok

/-- Why a settings file cannot be used. -/
inductive SettingsError where
  | file (error : FileError)
  | malformed
  | invalid (issues : List SettingsIssue)
  deriving DecidableEq

namespace SettingsError

def message : SettingsError → String
  | file error => "cannot read settings file: " ++ error.message
  | malformed => "malformed settings file"
  | invalid issues => "invalid settings: " ++ "; ".intercalate (issues.map SettingsIssue.display)

/-- Where a malformed file is wrong is not known, so only the kind of error is left of it. -/
def debug : SettingsError → String
  | file error => Text.tuple "Io" [error.debug]
  | malformed => "Parse"
  | invalid issues => Text.tuple "Validation" [Text.sequence (issues.map SettingsIssue.debug)]

end SettingsError

namespace LogFormat

def name : LogFormat → String
  | pretty => "pretty"
  | json => "json"

def ofName? (s : String) : Option LogFormat :=
  if s = "pretty" then some pretty else if s = "json" then some json else none

end LogFormat

namespace Settings

def standard : Settings := ⟨⟨"info", .pretty⟩, true, true⟩

def toJson (s : Settings) : Json :=
  .ofFields [
    ("observability", .ofFields [
      ("log_level", .string s.observability.logLevel),
      ("log_format", .string s.observability.logFormat.name)]),
    ("output", .ofFields [("pretty", .bool s.pretty)]),
    ("validation", .ofFields [("on_send", .bool s.validatesOnSend)])]

def isEmptyContainer : Toml.Node → Bool
  | .array items => items.isEmpty
  | .tables ts => ts.isEmpty
  | .inline entries => entries.isEmpty
  | .table t => t.entries.isEmpty
  | _ => false

def text? : Toml.Node → Option String
  | .string s => some s
  | _ => none

def flag? : Toml.Node → Option Bool
  | .bool b => some b
  | _ => none

/-- A log format is its name, or a table with the name as its key and nothing below it. -/
def logFormat? : Toml.Node → Option LogFormat
  | .string s => LogFormat.ofName? s
  | .inline [(key, value)] => if isEmptyContainer value then LogFormat.ofName? key else none
  | .table t =>
    match t.entries with
    | (key, value) :: _ => if isEmptyContainer value then LogFormat.ofName? key else none
    | [] => none
  | _ => none

/-- The fields of a section with the given keys; `none` where it is no section. A date counts as
one without any field. -/
def section? (keys : List String) : Toml.Node → Option (List (Option Toml.Node))
  | .inline entries => some (keys.map fun k => entries.lookup k)
  | .table t => some (keys.map fun k => t.entries.lookup k)
  | .array items => some ((List.range keys.length).map fun i => items[i]?)
  | .tables ts => some ((List.range keys.length).map fun i => ts[i]?.map .table)
  | .dateTime => some (keys.map fun _ => none)
  | _ => none

/-- A field that may be missing. -/
def field? {α : Type} (read : Toml.Node → Option α) (standard : α) :
    Option (Option Toml.Node) → Option α
  | some (some node) => read node
  | _ => some standard

def observability? (node : Toml.Node) : Option Observability := do
  let fields ← section? ["log_level", "log_format"] node
  let logLevel ← field? text? standard.observability.logLevel fields[0]?
  let logFormat ← field? logFormat? standard.observability.logFormat fields[1]?
  return { logLevel, logFormat }

def pretty? (node : Toml.Node) : Option Bool := do
  field? flag? standard.pretty (← section? ["pretty"] node)[0]?

def validatesOnSend? (node : Toml.Node) : Option Bool := do
  field? flag? standard.validatesOnSend (← section? ["on_send"] node)[0]?

def ofEntries? (entries : List (String × Toml.Node)) : Option Settings := do
  let observability ←
    field? observability? standard.observability (some (entries.lookup "observability"))
  let pretty ← field? pretty? standard.pretty (some (entries.lookup "output"))
  let validatesOnSend ←
    field? validatesOnSend? standard.validatesOnSend (some (entries.lookup "validation"))
  return { observability, pretty, validatesOnSend }

/-- Everything that makes no sense in settings that could be read. -/
def issues (s : Settings) : List SettingsIssue :=
  let level := Text.trim s.observability.logLevel.toList
  if level = [] then [⟨"observability.log_level", "must not be empty"⟩]
  else match Filter.check level with
    | .ok () => []
    | .error e =>
      [⟨"observability.log_level",
        "invalid filter " ++ Text.quoted (String.ofList level) ++ ": " ++ e.message⟩]

/-- The settings in a text. -/
def parse (text : String) : Except SettingsError Settings :=
  match Toml.parse? text >>= ofEntries? with
  | none => .error .malformed
  | some settings =>
    if settings.issues = [] then .ok settings else .error (.invalid settings.issues)

def ofContent (content : Option ByteArray) : Except SettingsError Settings :=
  (textOfContent content).mapError .file >>= parse

end Settings

end ApiGateway
