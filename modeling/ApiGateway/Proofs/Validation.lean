import ApiGateway.Validation
import ApiGateway.Proofs.Text.CaseFold

/-!
# The rules of a definition

Validation reports every rule of `Definition.rules` that is broken, each once and in their order.
What it passes leaves each backend with hosts it can call (`Backend.Callable`), although the rules
on hosts are spread over the definition and its backends. All of this holds whichever texts count
as addresses of hosts.
-/

set_option autoImplicit false

namespace ApiGateway

variable {δ : Type}

/-- What has to hold, and the issue that is reported if it does not. -/
structure Rule where
  path : FieldPath
  message : String
  Holds : Prop

namespace Rule

/-- The issues are those of the broken rules, in order. -/
inductive Reports : List Rule → List Issue → Prop
  | nil : Reports [] []
  | kept {r : Rule} {rules : List Rule} {issues : List Issue} (holds : r.Holds)
      (rest : Reports rules issues) : Reports (r :: rules) issues
  | broken {r : Rule} {rules : List Rule} {issues : List Issue} (broken : ¬ r.Holds)
      (rest : Reports rules issues) : Reports (r :: rules) (⟨r.path, r.message⟩ :: issues)

namespace Reports

theorem append {rs ss : List Rule} {is js : List Issue} (h : Reports rs is) (k : Reports ss js) :
    Reports (rs ++ ss) (is ++ js) := by
  induction h with
  | nil => exact k
  | kept holds _ ih => exact .kept holds ih
  | broken broken _ ih => exact .broken broken ih

theorem flatMap {α : Type} {rules : α → List Rule} {issues : α → List Issue} (xs : List α)
    (h : ∀ x, Reports (rules x) (issues x)) : Reports (xs.flatMap rules) (xs.flatMap issues) := by
  induction xs with
  | nil => exact .nil
  | cons x xs ih =>
    rw [List.flatMap_cons, List.flatMap_cons]
    exact (h x).append ih

theorem require {holds : Bool} {Holds : Prop} (h : holds ↔ Holds) (path : FieldPath)
    (message : String) :
    Reports [⟨path, message, Holds⟩] (Validation.require holds path message) := by
  cases holds with
  | false => exact .broken (fun k => Bool.false_ne_true (h.2 k)) .nil
  | true => exact .kept (h.1 rfl) .nil

theorem eq_nil_iff {rules : List Rule} {issues : List Issue} (h : Reports rules issues) :
    issues = [] ↔ ∀ r ∈ rules, r.Holds := by
  induction h with
  | nil => simp
  | kept holds _ ih => rw [List.forall_mem_cons, ih, and_iff_right holds]
  | broken broken _ _ =>
    refine iff_of_false (List.cons_ne_nil _ _) fun k => ?_
    exact broken (k _ List.mem_cons_self)

end Reports

end Rule

namespace Validation

def StartsWithSlash (s : String) : Prop := ∃ rest, s.toList = '/' :: rest

def methodRule (path : FieldPath) (method : String) : Rule where
  path
  message := "unsupported method " ++ Text.quoted method
  Holds := ∃ m ∈ methods, Text.Recased m method

def encodingRule (path : FieldPath) (encoding : String) : Rule where
  path
  message := "unsupported encoding " ++ Text.quoted encoding ++ ", expected json or xml"
  Holds := encoding ∈ encodings

def lbModeRule (path : FieldPath) (mode : String) : Rule where
  path
  message :=
    "unknown load-balancing mode " ++ Text.quoted mode ++ ", expected \"rr\" or \"wrr\""
  Holds := mode ∈ lbModes

/-- What is there starts with a slash. -/
def slashRule (what : String) (path : FieldPath) (s : String) : Rule where
  path
  message := what ++ " " ++ Text.quoted s ++ " must start with '/'"
  Holds := s = "" ∨ StartsWithSlash s

section

variable (isAddress : String → Bool)

def hostRule (unchecked : Prop) (path : FieldPath) (h : Host) : Rule where
  path := path.field "host"
  message := "host " ++ Text.quoted h.address ++ " is not an http(s) address"
  Holds := unchecked ∨ h.isBlank ∨ isAddress h.address

def hostsRules (unchecked : Prop) (path : FieldPath) (hosts : List Host) : List Rule :=
  hosts.zipIdx.map fun x => hostRule isAddress unchecked (path.index x.2) x.1

def backendRules (inherited : List Host) (path : FieldPath) (b : Backend δ) : List Rule :=
  [methodRule (path.field "method") b.method,
    encodingRule (path.field "encoding") b.encoding,
    lbModeRule (path.field "lb_mode") b.lbMode,
    slashRule "url pattern" (path.field "url_pattern") b.urlPattern] ++
  hostsRules isAddress b.disableHostSanitize (path.field "hosts") b.hosts ++
  [⟨path.field "hosts", "no host configured on the backend or its definition",
    ∃ h ∈ b.hosts ++ inherited, ¬ h.isBlank⟩]

end

end Validation

open Validation

/-- All that validation asks of a definition, where `isAddress` tells the addresses of hosts. -/
def Definition.rules (isAddress : String → Bool) (d : Definition δ) : List Rule :=
  [⟨FieldPath.root.field "name", "name is required", ¬ Text.allBlank d.name⟩,
    ⟨FieldPath.root.field "endpoint", "endpoint is required", d.endpoint ≠ ""⟩,
    slashRule "endpoint" (FieldPath.root.field "endpoint") d.endpoint,
    methodRule (FieldPath.root.field "method") d.method,
    encodingRule (FieldPath.root.field "output_encoding") d.outputEncoding] ++
  hostsRules isAddress False (FieldPath.root.field "hosts") d.hosts ++
  [⟨FieldPath.root.field "backend", "at least one backend is required", d.backends ≠ []⟩] ++
  d.backends.zipIdx.flatMap fun x =>
    backendRules isAddress d.hosts ((FieldPath.root.field "backend").index x.2) x.1

namespace Validation

variable {isAddress : String → Bool}

theorem startsWithSlash_iff {s : String} : startsWithSlash s ↔ StartsWithSlash s := by
  unfold startsWithSlash StartsWithSlash
  rw [decide_eq_true_iff, List.head?_eq_some_iff]

theorem reports_methodIssues (path : FieldPath) (method : String) :
    Rule.Reports [methodRule path method] (methodIssues path method) := by
  refine .require ?_ path _
  unfold isMethod
  rw [List.any_eq_true]
  simp only [Text.recased_iff, Text.same_comm]

theorem reports_encodingIssues (path : FieldPath) (encoding : String) :
    Rule.Reports [encodingRule path encoding] (encodingIssues path encoding) :=
  .require List.contains_iff_mem path _

theorem reports_lbModeIssues (path : FieldPath) (mode : String) :
    Rule.Reports [lbModeRule path mode] (lbModeIssues path mode) :=
  .require List.contains_iff_mem path _

theorem reports_urlPatternIssues (path : FieldPath) (pattern : String) :
    Rule.Reports [slashRule "url pattern" path pattern] (urlPatternIssues path pattern) := by
  refine .require ?_ path _
  rw [Bool.or_eq_true, beq_iff_eq, startsWithSlash_iff]

theorem reports_endpointIssues (path : FieldPath) (endpoint : String) :
    Rule.Reports [⟨path, "endpoint is required", endpoint ≠ ""⟩,
      slashRule "endpoint" path endpoint] (endpointIssues path endpoint) := by
  unfold endpointIssues
  split
  · rename_i h
    exact .broken (not_not_intro h) (.kept (.inl h) .nil)
  · rename_i h
    refine .kept h (.require ?_ path _)
    rw [startsWithSlash_iff, or_iff_right h]

variable (isAddress) in
theorem reports_hostsIssues (path : FieldPath) (hosts : List Host) :
    Rule.Reports (hostsRules isAddress False path hosts) (hostsIssues isAddress path hosts) := by
  unfold hostsRules hostsIssues
  rw [← List.flatMap_pure_eq_map, ← List.flatMap_def]
  refine .flatMap _ fun x => .require ?_ _ _
  rw [Bool.or_eq_true, false_or]

/-- Rows that are not checked break no rule. -/
theorem reports_unchecked {unchecked : Prop} (h : unchecked) (path : FieldPath)
    (hosts : List Host) : Rule.Reports (hostsRules isAddress unchecked path hosts) [] := by
  unfold hostsRules
  induction hosts.zipIdx with
  | nil => exact .nil
  | cons x xs ih => exact .kept (.inl h) ih

theorem holds_of_hostsRules {unchecked : Prop} {path : FieldPath} {hosts : List Host}
    (holds : ∀ r ∈ hostsRules isAddress unchecked path hosts, r.Holds) {h : Host}
    (hh : h ∈ hosts) : unchecked ∨ h.isBlank ∨ isAddress h.address := by
  obtain ⟨i, hi⟩ := List.mem_iff_getElem?.1 hh
  exact holds _ (List.mem_map_of_mem (List.mk_mem_zipIdx_iff_getElem?.2 hi))

end Validation

theorem Host.mem_filter_not_isBlank {hosts : List Host} {h : Host} :
    h ∈ hosts.filter (fun h => !h.isBlank) ↔ h ∈ hosts ∧ ¬ h.isBlank := by
  rw [List.mem_filter, Bool.not_eq_true', Bool.not_eq_true]

namespace Backend

/-- The backend has hosts to call: all of its own that are not blank, in their order, or if there is
none all of the inherited ones that are not. Only its own may be something else than addresses, and
only if it turns their check off. -/
structure Callable (isAddress : String → Bool) (inherited : List Host) (b : Backend δ) : Prop where
  nonempty : b.resolvedHosts inherited ≠ []
  oneList :
    (∃ h ∈ b.hosts, ¬ h.isBlank) ∧
      b.resolvedHosts inherited = b.hosts.filter (fun h => !h.isBlank) ∨
    (∀ h ∈ b.hosts, h.isBlank) ∧
      b.resolvedHosts inherited = inherited.filter (fun h => !h.isBlank)
  notBlank : ∀ h ∈ b.resolvedHosts inherited, ¬ h.isBlank
  address : ∀ h ∈ b.resolvedHosts inherited,
    isAddress h.address ∨ h ∈ b.hosts ∧ b.disableHostSanitize

theorem resolvedHosts_cases (b : Backend δ) (inherited : List Host) :
    (∃ h ∈ b.hosts, ¬ h.isBlank) ∧
      b.resolvedHosts inherited = b.hosts.filter (fun h => !h.isBlank) ∨
    (∀ h ∈ b.hosts, h.isBlank) ∧
      b.resolvedHosts inherited = inherited.filter (fun h => !h.isBlank) := by
  by_cases hown : ∃ h ∈ b.hosts, ¬ h.isBlank
  · refine .inl ⟨hown, if_pos ?_⟩
    obtain ⟨h, hh⟩ := hown
    exact List.ne_nil_of_mem (Host.mem_filter_not_isBlank.2 hh)
  · have hblank : ∀ h ∈ b.hosts, h.isBlank := by simpa using hown
    refine .inr ⟨hblank, if_neg (not_not_intro ?_)⟩
    rw [List.eq_nil_iff_forall_not_mem]
    intro h hh
    obtain ⟨hh, hn⟩ := Host.mem_filter_not_isBlank.1 hh
    exact hn (hblank h hh)

theorem mem_resolvedHosts {b : Backend δ} {inherited : List Host} {h : Host}
    (hh : h ∈ b.resolvedHosts inherited) : ¬ h.isBlank ∧ (h ∈ b.hosts ∨ h ∈ inherited) := by
  rcases resolvedHosts_cases b inherited with ⟨-, he⟩ | ⟨-, he⟩
  · rw [he, Host.mem_filter_not_isBlank] at hh
    exact ⟨hh.2, .inl hh.1⟩
  · rw [he, Host.mem_filter_not_isBlank] at hh
    exact ⟨hh.2, .inr hh.1⟩

theorem resolvedHosts_ne_nil_iff {b : Backend δ} {inherited : List Host} :
    b.resolvedHosts inherited ≠ [] ↔ ∃ h ∈ b.hosts ++ inherited, ¬ h.isBlank := by
  constructor
  · intro h
    obtain ⟨h, hh⟩ := List.exists_mem_of_ne_nil _ h
    obtain ⟨hn, hh⟩ := mem_resolvedHosts hh
    exact ⟨h, List.mem_append.2 hh, hn⟩
  · rintro ⟨h, hh, hn⟩
    rcases resolvedHosts_cases b inherited with ⟨⟨h', hh'⟩, he⟩ | ⟨hblank, he⟩
    · rw [he]
      exact List.ne_nil_of_mem (Host.mem_filter_not_isBlank.2 hh')
    · rcases List.mem_append.1 hh with hh | hh
      · exact absurd (hblank h hh) hn
      · rw [he]
        exact List.ne_nil_of_mem (Host.mem_filter_not_isBlank.2 ⟨hh, hn⟩)

end Backend

namespace Validation

variable {isAddress : String → Bool}

variable (isAddress) in
theorem reports_backendIssues (inherited : List Host) (path : FieldPath) (b : Backend δ) :
    Rule.Reports (backendRules isAddress inherited path b)
      (backendIssues isAddress inherited path b) := by
  have hosts :
      Rule.Reports (hostsRules isAddress b.disableHostSanitize (path.field "hosts") b.hosts)
        (if b.disableHostSanitize then []
          else hostsIssues isAddress (path.field "hosts") b.hosts) := by
    split
    · rename_i h
      exact reports_unchecked h _ _
    · rename_i h
      rw [eq_false h]
      exact reports_hostsIssues isAddress _ _
  have callable : Rule.Reports
      [⟨path.field "hosts", "no host configured on the backend or its definition",
        ∃ h ∈ b.hosts ++ inherited, ¬ h.isBlank⟩]
      (require (b.resolvedHosts inherited != []) (path.field "hosts")
        "no host configured on the backend or its definition") := by
    refine .require ?_ _ _
    rw [bne_iff_ne, Backend.resolvedHosts_ne_nil_iff]
  have fields := (((reports_methodIssues (path.field "method") b.method).append
    (reports_encodingIssues (path.field "encoding") b.encoding)).append
    (reports_lbModeIssues (path.field "lb_mode") b.lbMode)).append
    (reports_urlPatternIssues (path.field "url_pattern") b.urlPattern)
  exact (fields.append hosts).append callable

theorem callable_of_rules {b : Backend δ} {inherited : List Host} (path : FieldPath)
    (own : ∀ r ∈ backendRules isAddress inherited path b, r.Holds)
    (shared : ∀ r ∈ hostsRules isAddress False (FieldPath.root.field "hosts") inherited, r.Holds) :
    b.Callable isAddress inherited := by
  have nonempty : b.resolvedHosts inherited ≠ [] :=
    Backend.resolvedHosts_ne_nil_iff.2 (own _ (List.mem_concat_self))
  have own : ∀ r ∈ hostsRules isAddress b.disableHostSanitize (path.field "hosts") b.hosts,
      r.Holds := fun r hr => own r (List.mem_append_left _ (List.mem_append_right _ hr))
  refine ⟨nonempty, Backend.resolvedHosts_cases b inherited,
    fun h hh => (Backend.mem_resolvedHosts hh).1, fun h hh => ?_⟩
  obtain ⟨hn, hh | hh⟩ := Backend.mem_resolvedHosts hh
  · rcases holds_of_hostsRules own hh with h | h | h
    · exact .inr ⟨hh, h⟩
    · exact absurd h hn
    · exact .inl h
  · rcases holds_of_hostsRules shared hh with h | h | h
    · exact h.elim
    · exact absurd h hn
    · exact .inl h

end Validation

namespace Definition

section

variable (isAddress : String → Bool)

theorem reports_issuesFor (d : Definition δ) :
    Rule.Reports (d.rules isAddress) (d.issuesFor isAddress) := by
  have name : Rule.Reports
      [⟨FieldPath.root.field "name", "name is required", ¬ Text.allBlank d.name⟩]
      (require (!Text.allBlank d.name) (FieldPath.root.field "name") "name is required") := by
    refine .require ?_ _ _
    rw [Bool.not_eq_true', Bool.not_eq_true]
  have backend : Rule.Reports
      [⟨FieldPath.root.field "backend", "at least one backend is required", d.backends ≠ []⟩]
      (require (!d.backends.isEmpty) (FieldPath.root.field "backend")
        "at least one backend is required") := by
    refine .require ?_ _ _
    rw [Bool.not_eq_true', List.isEmpty_eq_false_iff]
  have backends := Rule.Reports.flatMap (d.backends.zipIdx) fun x =>
    reports_backendIssues isAddress d.hosts ((FieldPath.root.field "backend").index x.2) x.1
  have fields := ((name.append
    (reports_endpointIssues (FieldPath.root.field "endpoint") d.endpoint)).append
    (reports_methodIssues (FieldPath.root.field "method") d.method)).append
    (reports_encodingIssues (FieldPath.root.field "output_encoding") d.outputEncoding)
  have hosts := reports_hostsIssues isAddress (FieldPath.root.field "hosts") d.hosts
  exact ((fields.append hosts).append backend).append backends

/-- What passes can be called. -/
theorem callable_of_issuesFor_eq_nil {d : Definition δ} (h : d.issuesFor isAddress = [])
    {b : Backend δ} (hb : b ∈ d.backends) : b.Callable isAddress d.hosts := by
  have holds := (reports_issuesFor isAddress d).eq_nil_iff.1 h
  obtain ⟨i, hi⟩ := List.mem_iff_getElem?.1 hb
  refine callable_of_rules ((FieldPath.root.field "backend").index i) ?_ ?_
  · intro r hr
    refine holds r (List.mem_append_right _ ?_)
    exact List.mem_flatMap.2 ⟨(b, i), List.mk_mem_zipIdx_iff_getElem?.2 hi, hr⟩
  · intro r hr
    refine holds r (List.mem_append_left _ (List.mem_append_left _ ?_))
    exact List.mem_append_right _ hr

theorem exactly_broken_rules (d : Definition δ) :
    Rule.Reports (d.rules isAddress) (d.issuesFor isAddress) ∧
      (d.issuesFor isAddress = [] → ∀ b ∈ d.backends, b.Callable isAddress d.hosts) :=
  ⟨reports_issuesFor isAddress d, fun h _ hb => callable_of_issuesFor_eq_nil isAddress h hb⟩

end

/-- Whichever texts are addresses, and so for the http(s) addresses that are asked for. -/
theorem issues_exactly_broken_rules (d : Definition δ) :
    (∀ isAddress : String → Bool,
      Rule.Reports (d.rules isAddress) (d.issuesFor isAddress) ∧
        (d.issuesFor isAddress = [] → ∀ b ∈ d.backends, b.Callable isAddress d.hosts)) ∧
    Rule.Reports (d.rules Address.isHttpAddress) d.issues ∧
      (d.issues = [] → ∀ b ∈ d.backends, b.Callable Address.isHttpAddress d.hosts) :=
  ⟨fun isAddress => exactly_broken_rules isAddress d, exactly_broken_rules Address.isHttpAddress d⟩

/-- Three backends: one calls what it inherits, one its own hosts without a check, one its own. -/
def threeBackends : Definition Seconds :=
  { (Definition.standard : Definition Seconds) with
    name := "users"
    endpoint := "/users"
    hosts := [⟨"http://a.example", 1⟩, .blank]
    backends := [.standard,
      { (Backend.standard : Backend Seconds) with
        hosts := [.blank, ⟨"internal", 1⟩], disableHostSanitize := true },
      { (Backend.standard : Backend Seconds) with hosts := [⟨"https://b.example", 1⟩] }] }

theorem callable_threeBackends : threeBackends.issues = [] ∧
    ∀ b ∈ threeBackends.backends, b.Callable Address.isHttpAddress threeBackends.hosts := by
  have h : threeBackends.issues = [] := by decide +kernel
  exact ⟨h, (issues_exactly_broken_rules threeBackends).2.2 h⟩

end Definition

end ApiGateway
