import ApiGateway.Proofs.Catalog.Duplicates
import ApiGateway.Proofs.Indexed

/-!
# What validation reports

The issues of a catalog, told without what validation has seen so far: those of each definition, and
one for each name or endpoint that is not blank and occurs at an earlier place too
(`Catalog.violations`). Where the definitions have none, only the latter are left
(`Catalog.duplicates`).
-/

set_option autoImplicit false

namespace ApiGateway

/-- No two of the texts that are not blank are the same. -/
def Text.Distinct (values : List String) : Prop :=
  (values.filter fun v => !allBlank v).Pairwise fun a b => same a b = false

theorem Text.nodup_visible_iff {values : List String} :
    (visible values).Nodup ↔ Distinct values := by
  unfold visible Distinct List.Nodup
  rw [List.pairwise_map]
  simp only [same, beq_eq_false_iff_ne]

/-- Texts with the places where they occur, in order. -/
abbrev Occurrences := List (String × FieldPath)

namespace Occurrences

def first? (earlier : Occurrences) (value : String) : Option FieldPath :=
  (earlier.find? fun p => Text.same p.1 value).map Prod.snd

/-- The issue of a value that is not blank and occurs earlier, which names the first place. -/
def repeated (what : String) (earlier : Occurrences) (value : String) (path : FieldPath) :
    List Issue :=
  if Text.allBlank value then []
  else match earlier.first? value with
    | none => []
    | some first =>
      [⟨path, what ++ " " ++ Text.quoted value ++ " duplicates `" ++ first.display ++ "`"⟩]

theorem first?_congr (earlier : Occurrences) {a b : String} (h : Text.same a b) :
    earlier.first? a = earlier.first? b := by
  unfold first? Text.same
  rw [Text.same_iff.1 h]

theorem first?_concat (earlier : Occurrences) (value v : String) (path : FieldPath) :
    first? (earlier ++ [(value, path)]) v =
      (earlier.first? v).or (if Text.same value v then some path else none) := by
  unfold first?
  rw [List.find?_append, Option.map_or, List.find?_singleton]
  congr 1
  cases Text.same value v <;> rfl

end Occurrences

namespace Seen

/-- What was seen tells the first place of every value that is not blank. -/
def Records (seen : Seen) (earlier : Occurrences) : Prop :=
  ∀ value, Text.allBlank value = false → seen.first? value = earlier.first? value

theorem none_records : none.Records [] := fun _ _ => rfl

variable {seen : Seen} {earlier : Occurrences}

theorem first?_note (value v : String) (path : FieldPath) :
    first? ⟨(Text.fold value, path) :: seen.entries⟩ v =
      if Text.same value v then some path else seen.first? v := by
  unfold first? Text.same
  rw [List.lookup_cons, Bool.beq_comm]
  cases Text.fold value == Text.fold v <;> rfl

theorem fst_check (h : seen.Records earlier) (what value : String) (path : FieldPath) :
    (seen.check what value path).1 = earlier.repeated what value path := by
  unfold check Occurrences.repeated
  split
  · rfl
  · rename_i hb
    rw [← h value (Bool.eq_false_iff.2 hb)]
    cases seen.first? value <;> rfl

theorem first?_check_of_not_same {value v : String} (h : Text.same value v = false)
    (what : String) (path : FieldPath) :
    (seen.check what value path).2.first? v = seen.first? v := by
  unfold check
  split
  · rfl
  · split
    · rfl
    · rw [first?_note, h]
      rfl

theorem Records.check (h : seen.Records earlier) (what value : String) (path : FieldPath) :
    (seen.check what value path).2.Records (earlier ++ [(value, path)]) := by
  intro v hv
  rw [Occurrences.first?_concat, ← h v hv]
  by_cases hs : Text.same value v
  · have hb : Text.allBlank value = false := by rw [Text.allBlank_eq_of_same hs, hv]
    have hfirst : seen.first? v = seen.first? value := by
      rw [h v hv, h value hb, earlier.first?_congr hs]
    unfold Seen.check
    rw [if_neg (Bool.eq_false_iff.1 hb), if_pos hs, hfirst]
    split
    · rename_i first hsome
      rw [hfirst, hsome]
      rfl
    · rename_i hnone
      rw [first?_note, if_pos hs, hnone]
      rfl
  · rw [if_neg hs, Option.or_none]
    exact first?_check_of_not_same (Bool.eq_false_iff.2 hs) what path

end Seen

namespace Catalog

variable {δ : Type}

def definitionPath (i j : Nat) : FieldPath :=
  ((FieldPath.root.index i).field "definitions").index j

def nameOccurrences (groups : List (Group δ)) : Occurrences :=
  groups.zipIdx.map fun x => (x.1.name, (FieldPath.root.index x.2).field "name")

/-- Where a text of the definitions of the `i`-th group occurs. -/
def definitionOccurrences (text : Definition δ → String) (key : String) (i : Nat)
    (ds : List (Definition δ)) : Occurrences :=
  ds.zipIdx.map fun x => (text x.1, (definitionPath i x.2).field key)

def endpointOccurrences (groups : List (Group δ)) : Occurrences :=
  groups.zipIdx.flatMap fun x => definitionOccurrences (·.endpoint) "endpoint" x.2 x.1.definitions

/-- What is wrong with the `j`-th definition of the `i`-th group, which has the definitions `ds`,
after the groups where the `endpoints` occur. -/
def definitionViolations (i : Nat) (endpoints : Occurrences) (ds : List (Definition δ))
    (d : Definition δ) (j : Nat) : List Issue :=
  d.issues.map (·.within (definitionPath i j)) ++
  (definitionOccurrences (·.name) "name" i (ds.take j)).repeated "api name" d.name
    ((definitionPath i j).field "name") ++
  (endpoints ++ definitionOccurrences (·.endpoint) "endpoint" i (ds.take j)).repeated "endpoint"
    d.endpoint ((definitionPath i j).field "endpoint")

def groupViolations (groups : List (Group δ)) (g : Group δ) (i : Nat) : List Issue :=
  (nameOccurrences (groups.take i)).repeated "group name" g.name
    ((FieldPath.root.index i).field "name") ++
  g.definitions.zipIdx.flatMap fun x =>
    definitionViolations i (endpointOccurrences (groups.take i)) g.definitions x.1 x.2

def violations (c : Catalog δ) : List Issue :=
  c.groups.zipIdx.flatMap fun x => groupViolations c.groups x.1 x.2

theorem nameOccurrences_concat (groups : List (Group δ)) (g : Group δ) :
    nameOccurrences (groups ++ [g]) =
      nameOccurrences groups ++ [(g.name, (FieldPath.root.index groups.length).field "name")] := by
  unfold nameOccurrences
  rw [List.zipIdx_append, List.map_append, Nat.zero_add]
  rfl

theorem definitionOccurrences_concat (text : Definition δ → String) (key : String) (i : Nat)
    (ds : List (Definition δ)) (d : Definition δ) :
    definitionOccurrences text key i (ds ++ [d]) =
      definitionOccurrences text key i ds ++
        [(text d, (definitionPath i ds.length).field key)] := by
  unfold definitionOccurrences
  rw [List.zipIdx_append, List.map_append, Nat.zero_add]
  rfl

theorem endpointOccurrences_concat (groups : List (Group δ)) (g : Group δ) :
    endpointOccurrences (groups ++ [g]) =
      endpointOccurrences groups ++
        definitionOccurrences (·.endpoint) "endpoint" groups.length g.definitions := by
  unfold endpointOccurrences
  rw [List.zipIdx_append, List.flatMap_append, Nat.zero_add, List.zipIdx_singleton,
    List.flatMap_singleton]

/-- The definitions of a group from one on, after those that were seen `before`. -/
theorem definitionIssues_eq {names endpoints : Seen} (i : Nat) (earlier : Occurrences)
    (before ds : List (Definition δ))
    (hn : names.Records (definitionOccurrences (·.name) "name" i before))
    (he : endpoints.Records
      (earlier ++ definitionOccurrences (·.endpoint) "endpoint" i before)) :
    (definitionIssues (FieldPath.root.index i) before.length names endpoints ds).1 =
        (ds.zipIdx before.length).flatMap (fun x =>
          definitionViolations i earlier (before ++ ds) x.1 x.2) ∧
      (definitionIssues (FieldPath.root.index i) before.length names endpoints ds).2.Records
        (earlier ++ definitionOccurrences (·.endpoint) "endpoint" i (before ++ ds)) := by
  -- What was seen records the definitions before, which grow by one at each step.
  induction ds generalizing before names endpoints with
  | nil =>
    rw [List.append_nil]
    exact ⟨rfl, he⟩
  | cons d ds ih =>
    have hn' := hn.check "api name" d.name ((definitionPath i before.length).field "name")
    have he' := he.check "endpoint" d.endpoint
      ((definitionPath i before.length).field "endpoint")
    rw [← definitionOccurrences_concat (·.name)] at hn'
    rw [List.append_assoc, ← definitionOccurrences_concat (·.endpoint)] at he'
    obtain ⟨hissues, hrecords⟩ := ih (before ++ [d]) hn' he'
    rw [List.append_assoc, List.singleton_append, List.length_append, List.length_singleton]
      at hissues hrecords
    have hown : definitionViolations i earlier (before ++ d :: ds) d before.length =
        d.issues.map (·.within (definitionPath i before.length)) ++
        (names.check "api name" d.name ((definitionPath i before.length).field "name")).1 ++
        (endpoints.check "endpoint" d.endpoint
          ((definitionPath i before.length).field "endpoint")).1 := by
      unfold definitionViolations
      rw [List.take_left, Seen.fst_check hn, Seen.fst_check he]
    rw [List.zipIdx_cons, List.flatMap_cons, hown, ← hissues, definitionIssues]
    exact ⟨rfl, hrecords⟩

/-- The groups from one on, after those that were seen `before`. -/
theorem groupIssues_eq {names endpoints : Seen} (before gs : List (Group δ))
    (hn : names.Records (nameOccurrences before))
    (he : endpoints.Records (endpointOccurrences before)) :
    groupIssues before.length names endpoints gs =
      (gs.zipIdx before.length).flatMap fun x => groupViolations (before ++ gs) x.1 x.2 := by
  induction gs generalizing before names endpoints with
  | nil => rfl
  | cons g gs ih =>
    have hn' := hn.check "group name" g.name ((FieldPath.root.index before.length).field "name")
    rw [← nameOccurrences_concat] at hn'
    -- A group starts with no names of its own, but with the endpoints of the groups before.
    rw [← List.append_nil (endpointOccurrences before)] at he
    obtain ⟨hown, he'⟩ := definitionIssues_eq before.length (endpointOccurrences before) []
      g.definitions Seen.none_records he
    rw [List.nil_append, ← endpointOccurrences_concat] at he'
    have hrest := ih (before ++ [g]) hn' he'
    rw [List.append_assoc, List.singleton_append, List.length_append, List.length_singleton]
      at hrest
    have hg : groupViolations (before ++ g :: gs) g before.length =
        (names.check "group name" g.name
          ((FieldPath.root.index before.length).field "name")).1 ++
        (definitionIssues (FieldPath.root.index before.length) 0 .none endpoints
          g.definitions).1 := by
      unfold groupViolations
      rw [List.take_left, Seen.fst_check hn]
      exact congrArg _ hown.symm
    rw [List.zipIdx_cons, List.flatMap_cons, hg, ← hrest]
    rfl

theorem issues_eq_violations (c : Catalog δ) : c.issues = c.violations :=
  groupIssues_eq [] c.groups Seen.none_records Seen.none_records

/-- The texts of a definition that were there before it, in its group or in the groups before. -/
def definitionDuplicates (i : Nat) (endpoints : Occurrences) (ds : List (Definition δ))
    (d : Definition δ) (j : Nat) : List Issue :=
  (definitionOccurrences (·.name) "name" i (ds.take j)).repeated "api name" d.name
    ((definitionPath i j).field "name") ++
  (endpoints ++ definitionOccurrences (·.endpoint) "endpoint" i (ds.take j)).repeated "endpoint"
    d.endpoint ((definitionPath i j).field "endpoint")

def groupDuplicates (groups : List (Group δ)) (g : Group δ) (i : Nat) : List Issue :=
  (nameOccurrences (groups.take i)).repeated "group name" g.name
    ((FieldPath.root.index i).field "name") ++
  g.definitions.zipIdx.flatMap fun x =>
    definitionDuplicates i (endpointOccurrences (groups.take i)) g.definitions x.1 x.2

/-- Group names, names in one group and endpoints that are not blank and occur before. -/
def duplicates (c : Catalog δ) : List Issue :=
  c.groups.zipIdx.flatMap fun x => groupDuplicates c.groups x.1 x.2

theorem violations_eq_duplicates {c : Catalog δ} (h : ∀ d ∈ c.definitions, d.issues = []) :
    c.violations = c.duplicates := by
  unfold violations duplicates
  apply Indexed.flatMap_zipIdx_congr
  intro g hg i
  unfold groupViolations groupDuplicates
  refine (List.append_right_inj _).2 ?_
  apply Indexed.flatMap_zipIdx_congr
  intro d hd j
  unfold definitionViolations definitionDuplicates
  rw [h d (List.mem_flatMap.2 ⟨g, hg, hd⟩), List.map_nil, List.nil_append]

theorem issues_eq_nil_iff_distinct {c : Catalog δ} :
    c.issues = [] ↔
      (∀ d ∈ c.definitions, d.issues = []) ∧ Text.Distinct c.groupNames ∧
        (∀ g ∈ c.groups, Text.Distinct (g.definitions.map (·.name))) ∧
        Text.Distinct (c.definitions.map (·.endpoint)) := by
  simp only [issues_eq_nil_iff, Text.nodup_visible_iff, definitions, List.forall_mem_flatMap]
  constructor
  · rintro ⟨hnames, hgroups, hendpoints⟩
    exact ⟨fun g hg => (hgroups g hg).1, hnames, fun g hg => (hgroups g hg).2, hendpoints⟩
  · rintro ⟨hvalid, hnames, hgroups, hendpoints⟩
    exact ⟨hnames, fun g hg => ⟨hvalid g hg, hgroups g hg⟩, hendpoints⟩

theorem issues_exactly_violations (c : Catalog δ) :
    (c.issues = [] ↔
      (∀ d ∈ c.definitions, d.issues = []) ∧ Text.Distinct c.groupNames ∧
        (∀ g ∈ c.groups, Text.Distinct (g.definitions.map (·.name))) ∧
        Text.Distinct (c.definitions.map (·.endpoint))) ∧
    c.issues = c.violations := by
  constructor
  · exact issues_eq_nil_iff_distinct
  · exact issues_eq_violations c

example : violations (⟨[⟨"a", []⟩, ⟨"", []⟩, ⟨"A", []⟩, ⟨"", []⟩, ⟨"a", []⟩]⟩ : Catalog Seconds) =
    [⟨⟨"[2].name"⟩, "group name \"A\" duplicates `[0].name`"⟩,
      ⟨⟨"[4].name"⟩, "group name \"a\" duplicates `[0].name`"⟩] := by
  decide +kernel

end Catalog

end ApiGateway
