import ApiGateway.Command
import ApiGateway.Proofs.Catalog.Forms
import ApiGateway.Proofs.Catalog.Reports
import ApiGateway.Proofs.Catalog.Spelling

/-!
# What is sent validates

Sending prints a group that is prepared and whose definitions have no issues. Loaded into a catalog
together, such groups have no issues but duplicates (`Command.validate_sent`).
-/

set_option autoImplicit false

namespace ApiGateway

open Binary64

/-! ## Loading what was printed -/

section

variable {make : ObjectMaker}

theorem Group.load_encode_iff (hm : make.IsReadable) {w : Group DurationText}
    {g : Group Seconds} :
    Group.load (w.encode make) = .ok g ↔ w.map Receivable.receive = g.map .ok := by
  have hfill : Group.hydrate (w.encode make) = .ok (w.map fun t => RawDuration.text t.text) :=
    Group.hydrate_encode hm (fun _ _ => rfl) .root
  unfold Group.load
  rw [hfill, Except.ok_bind]
  exact Traversed.receive_text_eq_ok_iff .root w g

theorem Catalog.load_encode_iff (hm : make.IsReadable) {w : Catalog DurationText}
    {c : Catalog Seconds} :
    Catalog.load (.array (w.groups.map (Group.encode make))) = .ok c ↔
      w.map Receivable.receive = c.map .ok := by
  rw [(Catalog.followsGroups _).ok_iff, List.forall₂_map_left_iff, Catalog.map_eq_map_iff]
  simp only [Group.load_encode_iff hm]

/-- Groups of wire texts that can be received make one catalog, however their fields are ordered. -/
theorem Catalog.exists_load_encode {w : Catalog DurationText}
    (h : ∀ t ∈ w.durations, ∃ x, Receivable.receive t = .ok x) :
    ∃ c : Catalog Seconds, c.issues = w.issues ∧ ∀ make : ObjectMaker, make.IsReadable →
      Catalog.load (.array (w.groups.map (Group.encode make))) = .ok c := by
  have : Nonempty Seconds := ⟨.ofSpan Phrase.nothing⟩
  obtain ⟨c, hc⟩ := (Timed.exists_map_ok_iff (E := Catalog)).2 h
  refine ⟨c, ?_, fun make hm => (Catalog.load_encode_iff hm).2 hc⟩
  calc c.issues = (c.map (Except.ok (ε := DurationError))).issues :=
        (Catalog.issues_map _ c).symm
    _ = (w.map Receivable.receive).issues := congrArg Catalog.issues hc.symm
    _ = w.issues := Catalog.issues_map _ w

end

namespace Command

/-- Validation on sending lets only groups through that have no issues. -/
theorem sent_cases {s : Settings} (validates : s.validatesOnSend = true) {item : Json}
    {o : Outcome} (h : sendDocument s item .group = .ok o) (success : o.exitCode = 0) :
    ∃ w, Group.prepare item = .ok w ∧ (∀ d ∈ w.definitions, d.issues = []) ∧
      o = .printed (w.encode .object) s.pretty := by
  obtain ⟨w, hw, rfl⟩ := Except.map_eq_ok_iff.1 h
  unfold Settings.emit at success ⊢
  by_cases hissues : w.definitions.flatMap Definition.issues = []
  · refine ⟨w, hw, List.flatMap_eq_nil_iff.1 hissues, ?_⟩
    rw [if_neg fun hbad => hbad.2 hissues]
  · rw [if_pos ⟨validates, hissues⟩] at success
    cases success

theorem validateDocument_exitCode_iff {raw : Json} {c : Catalog Seconds}
    (h : Catalog.load raw = .ok c) :
    (∃ o, validateDocument raw = .ok o ∧ o.exitCode = 0) ↔ c.issues = [] := by
  unfold validateDocument
  rw [h]
  constructor
  · rintro ⟨o, ho, hexit⟩
    cases ho
    dsimp only at hexit
    split at hexit
    · assumption
    · cases hexit
  · intro hissues
    exact ⟨.accepted, congrArg Except.ok (if_pos hissues), rfl⟩

/-- Without issues, and with durations that can be received. -/
structure Passes (w : Group DurationText) : Prop where
  issues : ∀ d ∈ w.definitions, d.issues = []
  received : ∀ t ∈ w.durations, ∃ x, Receivable.receive t = .ok x

/-- The group that an item is prepared to is what is printed for it. -/
structure Sent (s : Settings) (item : Json) (w : Group DurationText) : Prop where
  prepared : Group.prepare item = .ok w
  printed : sendDocument s item .group = .ok (.printed (w.encode .object) s.pretty)

theorem exists_passes {s : Settings} (validates : s.validatesOnSend = true) {item : Json}
    (sent : ∃ o, sendDocument s item .group = .ok o ∧ o.exitCode = 0)
    (short : ∀ g, Group.hydrate item = .ok g → Timed.ReceivedBelow (2 ^ 34) g) :
    ∃ w : Group DurationText, Sent s item w ∧ Passes w := by
  obtain ⟨o, ho, success⟩ := sent
  obtain ⟨w, hw, hissues, rfl⟩ := sent_cases validates ho success
  refine ⟨w, ⟨hw, ho⟩, hissues, ?_⟩
  obtain ⟨g, hg, hsend⟩ := Except.bind_eq_ok_iff.1 hw
  intro t ht
  exact (Traversed.isSettled_of_send hsend (short g hg) t ht).received

/-- Groups `w` that are prepared and printed for the items, and what loading and validating the
printed documents together comes to: as they are printed, or with their fields in order. -/
structure ValidatesSent (s : Settings) (items : List Json) (w : Catalog DurationText)
    (c : Catalog Seconds) : Prop where
  sent : List.Forall₂ (Sent s) items w.groups
  issues : c.issues = w.duplicates
  loaded {documents : List Json}
      (h : documents = w.groups.map (Group.encode .object) ∨ documents = w.groups.map toJson) :
    Catalog.load (.array documents) = .ok c ∧
      ((∃ o, validateDocument (.array documents) = .ok o ∧ o.exitCode = 0) ↔
        Text.Distinct w.groupNames ∧
          (∀ g ∈ w.groups, Text.Distinct (g.definitions.map (·.name))) ∧
          Text.Distinct (w.definitions.map (·.endpoint)))

theorem validate_sent {s : Settings} {items : List Json} (validates : s.validatesOnSend = true)
    (sent : ∀ item ∈ items, ∃ o, sendDocument s item .group = .ok o ∧ o.exitCode = 0)
    (short : ∀ item ∈ items, ∀ g, Group.hydrate item = .ok g → Timed.ReceivedBelow (2 ^ 34) g) :
    ∃ w c, ValidatesSent s items w c := by
  obtain ⟨groups, hgroups⟩ := Indexed.exists_forall₂_iff.2 fun item hitem =>
    exists_passes validates (sent item hitem) (short item hitem)
  have hpasses : ∀ g ∈ groups, Passes g := by
    intro g hg
    obtain ⟨item, -, -, h⟩ := Indexed.exists_of_mem_forall₂ hgroups hg
    exact h
  have hvalid : ∀ d ∈ (⟨groups⟩ : Catalog DurationText).definitions, d.issues = [] := by
    intro d hd
    obtain ⟨g, hg, hd⟩ := List.mem_flatMap.1 hd
    exact (hpasses g hg).issues d hd
  have hreceived : ∀ t ∈ (⟨groups⟩ : Catalog DurationText).durations,
      ∃ x, Receivable.receive t = .ok x := by
    intro t ht
    obtain ⟨g, hg, ht⟩ := List.mem_flatMap.1 ht
    exact (hpasses g hg).received t ht
  obtain ⟨c, hissues, hload⟩ := Catalog.exists_load_encode hreceived
  refine ⟨⟨groups⟩, c, hgroups.imp fun _ _ h => h.1, ?_, ?_⟩
  · rw [hissues, Catalog.issues_eq_violations, Catalog.violations_eq_duplicates hvalid]
  · intro documents hdocuments
    have hc : Catalog.load (.array documents) = .ok c := by
      rcases hdocuments with rfl | rfl
      · exact hload .object ObjectMaker.isReadable_object
      · exact hload .ofFields ObjectMaker.isReadable_ofFields
    refine ⟨hc, ?_⟩
    rw [validateDocument_exitCode_iff hc, hissues, Catalog.issues_eq_nil_iff_distinct]
    exact and_iff_right hvalid

/-- A group with one endpoint, whose durations are spelled in three ways. -/
def published (name : String) : Json := .object [
  ("name", .string name),
  ("definitions", .array [.object [
    ("backend", .array [.object [
      ("hosts", .array [.object [("host", .string "http://a.example")]]),
      ("timeout", .integer 90)]]),
    ("endpoint", .string "/users"),
    ("name", .string "list"),
    ("timeout", .string "1h 30m")]])]

def publishedDefinition {δ : Type} (timeout cacheTtl backend : δ) : Definition δ :=
  { (Definition.standard : Definition Seconds).withDurations timeout cacheTtl
      [{ (Backend.standard : Backend Seconds).withTimeout backend with
        hosts := [⟨"http://a.example", 0⟩] }] with
    name := "list"
    endpoint := "/users" }

theorem hydrate_published (name : String) : Group.hydrate (published name) = .ok ⟨name,
    [publishedDefinition (.text "1h 30m") (.text "3600s") (.number (Binary64.ofInt 90))]⟩ := rfl

theorem prepare_published (name : String) :
    Group.prepare (published name) =
      .ok ⟨name, [publishedDefinition ⟨"90m"⟩ ⟨"3600s"⟩ ⟨"90s"⟩]⟩ := by
  obtain ⟨phrase, text, number⟩ := Group.send_spellings
  refine Group.prepare_eq_ok_iff.2 ⟨_, hydrate_published name, ?_⟩
  show Group.mk name [publishedDefinition (Sendable.send (RawDuration.text "1h 30m"))
    (Sendable.send (RawDuration.text "3600s"))
    (Sendable.send (RawDuration.number (Binary64.ofInt 90)))] = _
  rw [phrase, text, number]
  rfl

theorem receivedBelow_published (name : String) (g : Group RawDuration)
    (h : Group.hydrate (published name) = .ok g) : Timed.ReceivedBelow (2 ^ 34) g := by
  rw [hydrate_published] at h
  cases h
  have hreceive := (Group.receive_eq_ok_iff _ _).1 Group.receive_spelled
  refine (Timed.forall_converted_iff hreceive).1 fun x hx => ?_
  exact Nat.lt_trans (Group.received_lt hx)
    (Nat.mul_lt_mul_of_pos_right (by decide) Binary64.one_pos)

theorem sent_published (s : Settings) (name : String) :
    ∃ o, sendDocument s (published name) .group = .ok o ∧ o.exitCode = 0 := by
  have hissues : (publishedDefinition (⟨"90m"⟩ : DurationText) ⟨"3600s"⟩ ⟨"90s"⟩).issues = [] := by
    decide +kernel
  refine ⟨_, Except.map_eq_ok_iff.2 ⟨_, prepare_published name, rfl⟩, ?_⟩
  unfold Settings.emit
  rw [List.flatMap_singleton, if_neg fun h => h.2 hissues]
  rfl

/-- The names of the two groups differ in case only, and both have the same endpoint. -/
theorem validate_sent_published :
    Settings.standard.validatesOnSend = true ∧
      ∃ w c, ValidatesSent .standard [published "users", published "Users"] w c := by
  have hitems {p : Json → Prop} (h : ∀ name, p (published name)) :
      ∀ item ∈ [published "users", published "Users"], p item := by
    intro item hitem
    rcases List.mem_cons.1 hitem with rfl | hitem
    · exact h "users"
    · rw [List.mem_singleton.1 hitem]
      exact h "Users"
  refine ⟨rfl, validate_sent rfl (hitems ?_) (hitems ?_)⟩
  · exact sent_published .standard
  · exact receivedBelow_published

end Command

end ApiGateway
