import ApiGateway.Document.Encoding
import ApiGateway.Document.Hydration

/-!
# Receiving and sending documents

A document is filled in first and then every duration is converted, so a fault of shape is
reported before any fault of a duration. A received document ends in the editor's form, an
outgoing one in the wire form.
-/

set_option autoImplicit false

namespace ApiGateway

variable {δ : Type}

def receiveField [Receivable δ] (path : FieldPath) (d : δ) : Hydrated Seconds :=
  (Receivable.receive d).mapError (.duration path)

def sendField [Sendable δ] (path : FieldPath) (d : δ) : Hydrated DurationText :=
  (Sendable.send d).mapError (.duration path)

namespace HealthCheck

def receive [Receivable δ] (h : HealthCheck δ) : Hydrated (HealthCheck Seconds) :=
  h.traverse receiveField .root

def send [Sendable δ] (h : HealthCheck δ) : Hydrated (HealthCheck DurationText) :=
  h.traverse sendField .root

end HealthCheck

namespace Backend

def receive [Receivable δ] (b : Backend δ) : Hydrated (Backend Seconds) :=
  b.traverse receiveField .root

def send [Sendable δ] (b : Backend δ) : Hydrated (Backend DurationText) :=
  b.traverse sendField .root

end Backend

namespace Definition

def receive [Receivable δ] (d : Definition δ) : Hydrated (Definition Seconds) :=
  d.traverse receiveField .root

def send [Sendable δ] (d : Definition δ) : Hydrated (Definition DurationText) :=
  d.traverse sendField .root

/-- A definition as it is, durations included. -/
def hydrate (raw : Json) : Hydrated (Definition RawDuration) := ApiGateway.hydrate raw .root

/-- A stored definition, for the editor. -/
def load (raw : Json) : Hydrated (Definition Seconds) := do (← hydrate raw).receive

/-- An edited definition, for storage. -/
def prepare (raw : Json) : Hydrated (Definition DurationText) := do (← hydrate raw).send

end Definition

namespace Group

def receive [Receivable δ] (g : Group δ) : Hydrated (Group Seconds) :=
  g.traverse receiveField .root

def send [Sendable δ] (g : Group δ) : Hydrated (Group DurationText) :=
  g.traverse sendField .root

/-- A group as it is, durations included. -/
def hydrate (raw : Json) : Hydrated (Group RawDuration) := ApiGateway.hydrate raw .root

/-- A stored group, for the editor. -/
def load (raw : Json) : Hydrated (Group Seconds) := do (← hydrate raw).receive

/-- An edited group, for storage. -/
def prepare (raw : Json) : Hydrated (Group DurationText) := do (← hydrate raw).send

end Group

/-- Which way a document travels. -/
inductive Direction where
  | received
  | outgoing
  deriving DecidableEq, Repr

def Direction.ofReceived (isReceived : Bool) : Direction :=
  if isReceived then received else outgoing

/-- What became of a document: the editor's form of a received one, the wire form of another. -/
inductive Adjusted (ε ω : Type) where
  | editor (value : ε)
  | wire (value : ω)

namespace Adjusted

variable {ε ω : Type}

def direction : Adjusted ε ω → Direction
  | editor _ => .received
  | wire _ => .outgoing

def editor? : Adjusted ε ω → Option ε
  | editor value => some value
  | wire _ => none

def wire? : Adjusted ε ω → Option ω
  | editor _ => none
  | wire value => some value

instance [ToJson ε] [ToJson ω] : ToJson (Adjusted ε ω) where
  toJson
    | editor value => toJson value
    | wire value => toJson value

end Adjusted

def Definition.adjust (raw : Json) :
    Direction → Hydrated (Adjusted (Definition Seconds) (Definition DurationText))
  | .received => (Definition.load raw).map .editor
  | .outgoing => (Definition.prepare raw).map .wire

def Group.adjust (raw : Json) :
    Direction → Hydrated (Adjusted (Group Seconds) (Group DurationText))
  | .received => (Group.load raw).map .editor
  | .outgoing => (Group.prepare raw).map .wire

end ApiGateway
