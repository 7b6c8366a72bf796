import ApiGateway.Json
import ApiGateway.Proofs.FieldPath

/-!
# Shapes

What a JSON value has to be to fill an entity, with the fields in the order in which they are read,
and the first part of a value that is something else. A path to that part leads there
(`Shape.FirstFault.follow_walk`).
-/

set_option autoImplicit false

namespace ApiGateway

open FieldPath (Step IsPlain Legible)

namespace Json

/-- The part of a value that a step leads to. -/
def child? : Json → Step → Option Json
  | .object fields, .field key => Fields.get? fields key
  | .array items, .index i => items[i]?
  | _, _ => none

def follow? (v : Json) : List Step → Option Json
  | [] => some v
  | s :: steps => (v.child? s).bind fun w => w.follow? steps

theorem follow?_field (fields : Fields Json) (key : String) (steps : List Step) :
    (object fields).follow? (.field key :: steps) =
      (Fields.get? fields key).bind fun w => w.follow? steps := rfl

theorem follow?_index (items : List Json) (i : Nat) (steps : List Step) :
    (array items).follow? (.index i :: steps) = items[i]?.bind fun w => w.follow? steps := rfl

/-- Every object has its keys in ascending order and each of them once. -/
inductive Ordered : Json → Prop where
  | null : Ordered .null
  | bool (b : Bool) : Ordered (.bool b)
  | integer (n : Int) : Ordered (.integer n)
  | float (x : Binary64) : Ordered (.float x)
  | string (s : String) : Ordered (.string s)
  | array {items : List Json} (each : ∀ v ∈ items, Ordered v) : Ordered (.array items)
  | object {fields : Fields Json} (keys : Fields.IsSorted fields)
      (each : ∀ p ∈ fields, Ordered p.2) : Ordered (.object fields)

end Json

/-- The part of a value that a path leads to. -/
def FieldPath.follow? (p : FieldPath) (v : Json) : Option Json := v.follow? p.steps

/-- What a field or an item of a document has to be. A field of a record may be absent or null too,
an item may not. -/
inductive Shape where
  | string
  | flag
  /-- An integer of 32 bits without sign. -/
  | unsigned
  /-- A text or a number. -/
  | duration
  /-- An object of any content. -/
  | object
  /-- An object of texts. -/
  | texts
  | list (item : Shape)
  | record (fields : List (String × Shape))

namespace Shape

/-- What a report says that a value should have been. -/
def expected : Shape → String
  | string => "string"
  | flag => "boolean"
  | unsigned => "non-negative integer"
  | duration => "duration string or number"
  | object | texts | record _ => "object"
  | list _ => "array"

/-- A value of the right type, whatever its parts are. -/
def fits : Shape → Json → Bool
  | string, .string _ => true
  | flag, .bool _ => true
  | unsigned, .integer n => 0 ≤ n && n < UInt32.size
  | duration, .string _ | duration, .integer _ | duration, .float _ => true
  | object, .object _ | texts, .object _ | record _, .object _ => true
  | list _, .array _ => true
  | _, _ => false

/-- A value of the right type in all of its parts. -/
inductive Holds : Shape → Json → Prop where
  | string (s : String) : Holds .string (.string s)
  | flag (b : Bool) : Holds .flag (.bool b)
  | unsigned {n : Int} (lo : 0 ≤ n) (hi : n < UInt32.size) : Holds .unsigned (.integer n)
  | phrase (s : String) : Holds .duration (.string s)
  | integer (n : Int) : Holds .duration (.integer n)
  | float (x : Binary64) : Holds .duration (.float x)
  | object (fields : Fields Json) : Holds .object (.object fields)
  | texts {entries : Fields Json} (each : ∀ p ∈ entries, Holds .string p.2) :
    Holds .texts (.object entries)
  | list {item : Shape} {items : List Json} (each : ∀ v ∈ items, Holds item v) :
    Holds (.list item) (.array items)
  | record {schema : List (String × Shape)} {fields : Fields Json}
      (each : ∀ p ∈ schema, ∀ v, Fields.get? fields p.1 = some v → v ≠ .null → Holds p.2 v) :
    Holds (.record schema) (.object fields)

/-- The first part of a value, in the order of reading, that is not of its type: the steps that
lead there, what it should have been, and what it is. Everything that is read before holds. -/
inductive FirstFault : Shape → Json → List Step → Shape → Json → Prop where
  | here {s : Shape} {v : Json} (misfit : s.fits v = false) : FirstFault s v [] s v
  | field {before after : List (String × Shape)} {key : String} {s bad : Shape}
      {fields : Fields Json} {v found : Json} {steps : List Step}
      (earlier : Holds (.record before) (.object fields))
      (present : Fields.get? fields key = some v) (value : v ≠ .null)
      (inside : FirstFault s v steps bad found) :
    FirstFault (.record (before ++ (key, s) :: after)) (.object fields) (.field key :: steps)
      bad found
  | item {s bad : Shape} {before after : List Json} {v found : Json} {steps : List Step}
      (earlier : ∀ u ∈ before, Holds s u) (inside : FirstFault s v steps bad found) :
    FirstFault (.list s) (.array (before ++ v :: after)) (.index before.length :: steps) bad found
  | entry {before after : Fields Json} {key : String} {v : Json}
      (earlier : ∀ p ∈ before, Holds .string p.2) (misfit : string.fits v = false) :
    FirstFault .texts (.object (before ++ (key, v) :: after)) [.field key] .string v

variable {s bad : Shape} {v found : Json} {steps : List Step}

theorem Holds.fits (h : s.Holds v) : s.fits v = true := by
  cases h with
  | unsigned lo hi => exact Bool.and_eq_true_iff.2 ⟨decide_eq_true lo, decide_eq_true hi⟩
  | _ => rfl

theorem holds_record_nil (fields : Fields Json) : (record []).Holds (.object fields) :=
  .record fun p hp => by cases hp

theorem Holds.record_append {schema rest : List (String × Shape)} {fields : Fields Json}
    (h : (Shape.record schema).Holds (.object fields))
    (hrest : (Shape.record rest).Holds (.object fields)) :
    (Shape.record (schema ++ rest)).Holds (.object fields) := by
  cases h with
  | record each =>
    cases hrest with
    | record eachRest =>
      refine .record fun p hp => ?_
      rcases List.mem_append.1 hp with hp | hp
      · exact each p hp
      · exact eachRest p hp

theorem FirstFault.not_fits (h : s.FirstFault v steps bad found) : bad.fits found = false := by
  induction h with
  | here misfit => exact misfit
  | field _ _ _ _ ih => exact ih
  | item _ _ ih => exact ih
  | entry _ misfit => exact misfit

theorem not_holds_of_not_fits (h : s.fits v = false) : ¬ s.Holds v := by
  intro hv
  rw [hv.fits] at h
  cases h

theorem FirstFault.not_holds (h : s.FirstFault v steps bad found) : ¬ s.Holds v := by
  induction h with
  | here misfit => exact not_holds_of_not_fits misfit
  | field _ present value _ ih =>
    intro hv
    cases hv with
    | record each =>
      exact ih (each _ (List.mem_append_right _ List.mem_cons_self) _ present value)
  | item _ _ ih =>
    intro hv
    cases hv with
    | list each => exact ih (each _ (List.mem_append_right _ List.mem_cons_self))
  | entry _ misfit =>
    intro hv
    cases hv with
    | texts each =>
      exact not_holds_of_not_fits misfit
        (each _ (List.mem_append_right _ List.mem_cons_self))

/-! ## Paths -/

mutual

/-- The keys of records are plain names, but objects of texts stand under `mapping`. -/
def legible : Shape → Bool
  | texts => false
  | list item => item.legible
  | record fields => legibleFields fields
  | _ => true

def legibleFields : List (String × Shape) → Bool
  | [] => true
  | p :: rest => legibleField p && legibleFields rest

def legibleField : String × Shape → Bool
  | ("mapping", texts) => true
  | (key, s) => decide (IsPlain key) && s.legible

end

theorem legibleField_of_mem {fields : List (String × Shape)} (h : legibleFields fields)
    {p : String × Shape} (hp : p ∈ fields) : legibleField p := by
  induction fields with
  | nil => cases hp
  | cons q rest ih =>
    obtain ⟨hq, hrest⟩ := Bool.and_eq_true_iff.1 h
    rcases List.mem_cons.1 hp with rfl | hp
    · exact hq
    · exact ih hrest hp

theorem FirstFault.legible (h : s.FirstFault v steps bad found) (hs : s.legible) :
    Legible steps := by
  induction h with
  | here => exact .nil
  | @field before after key s _ _ _ _ _ _ _ _ inside ih =>
    have hkey := legibleField_of_mem hs (List.mem_append_right before List.mem_cons_self)
    unfold legibleField at hkey
    split at hkey
    · rename_i he
      obtain ⟨rfl, rfl⟩ := Prod.mk.inj he
      cases inside with
      | here => exact .mapping
      | entry => exact .entry _
    · rename_i he
      obtain ⟨rfl, rfl⟩ := Prod.mk.inj he
      obtain ⟨hplain, hs⟩ := Bool.and_eq_true_iff.1 hkey
      exact .field (of_decide_eq_true hplain) (ih hs)
  | item _ _ ih => exact .index _ (ih hs)
  | entry => cases hs

theorem FirstFault.follow? (h : s.FirstFault v steps bad found) (hv : v.Ordered) :
    v.follow? steps = some found := by
  induction h with
  | here => rfl
  | field _ present _ _ ih =>
    cases hv with
    | object keys each =>
      rw [Json.follow?_field, present]
      exact ih (each _ (Fields.mem_of_get? present))
  | @item s _ before after v _ _ _ _ ih =>
    cases hv with
    | array each =>
      rw [Json.follow?_index, List.getElem?_append_right (Nat.le_refl _), Nat.sub_self]
      exact ih (each _ (List.mem_append_right _ List.mem_cons_self))
  | entry =>
    cases hv with
    | object keys each =>
      rw [Json.follow?_field,
        Fields.get?_of_mem keys.nodup (List.mem_append_right _ List.mem_cons_self)]
      rfl

theorem FirstFault.follow_walk (h : s.FirstFault v steps bad found) (hs : s.legible)
    (hv : v.Ordered) : (FieldPath.root.walk steps).follow? v = some found := by
  unfold FieldPath.follow?
  rw [FieldPath.steps_walk (h.legible hs)]
  exact h.follow? hv

end Shape

/-! ## The shapes of entities -/

def Host.shape : Shape := .record [
  ("host", .string),
  ("weight", .unsigned)]

def HealthCheck.shape : Shape := .record [
  ("url", .string),
  ("timeout", .duration)]

def Backend.shape : Shape := .record [
  ("hosts", .list Host.shape),
  ("timeout", .duration),
  ("method", .string),
  ("url_pattern", .string),
  ("encoding", .string),
  ("group", .string),
  ("blacklist", .list .string),
  ("whitelist", .list .string),
  ("mapping", .texts),
  ("is_collection", .flag),
  ("wrap_collection_to_json", .flag),
  ("target", .string),
  ("middleware", .object),
  ("disable_host_sanitize", .flag),
  ("lb_mode", .string)]

def Definition.shape : Shape := .record [
  ("name", .string),
  ("active", .flag),
  ("endpoint", .string),
  ("hosts", .list Host.shape),
  ("method", .string),
  ("timeout", .duration),
  ("cache_ttl", .duration),
  ("output_encoding", .string),
  ("except_querystrings", .list .string),
  ("except_headers", .list .string),
  ("middleware", .object),
  ("backend", .list Backend.shape)]

def Group.shape : Shape := .record [
  ("name", .string),
  ("definitions", .list Definition.shape)]

theorem Host.legible_shape : Host.shape.legible := by decide +kernel

theorem HealthCheck.legible_shape : HealthCheck.shape.legible := by decide +kernel

theorem Backend.legible_shape : Backend.shape.legible := by decide +kernel

theorem Definition.legible_shape : Definition.shape.legible := by decide +kernel

theorem Group.legible_shape : Group.shape.legible := by decide +kernel

end ApiGateway
