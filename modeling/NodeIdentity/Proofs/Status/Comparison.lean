import Mathlib.Data.List.Nodup
import Mathlib.Data.List.Perm.Subperm
import NodeIdentity.Proofs.Status.Times

/-!
# Lists of conditions compared

Two lists are compared by their lengths, and by looking the conditions of the one up in the other.
Lists in which no type is repeated leave no room for more: as many different conditions as the other
list has, all found in it, are all of its conditions.  So on such lists the comparison asks whether
one list is the other in some order, but for times.
-/

namespace NodeIdentity

variable {a b c : List Condition}

/-! ## Types -/

@[simp] theorem Condition.untimed_type (condition : Condition) :
    condition.untimed.type = condition.type := rfl

theorem types_map_untimed (conditions : List Condition) :
    (conditions.map Condition.untimed).map (·.type) = conditions.map (·.type) := by
  rw [List.map_map]
  rfl

theorem types_perm (perm : (b.map Condition.untimed).Perm (a.map Condition.untimed)) :
    (b.map (·.type)).Perm (a.map (·.type)) := by
  have htypes := perm.map (·.type)
  rwa [types_map_untimed, types_map_untimed] at htypes

namespace DistinctTypes

theorem nodup_untimed (distinct : DistinctTypes a) : (a.map Condition.untimed).Nodup := by
  unfold DistinctTypes at distinct
  rw [← types_map_untimed] at distinct
  exact distinct.of_map

theorem of_perm (distinct : DistinctTypes a) (perm : b.Perm a) : DistinctTypes b :=
  (perm.map Condition.type).nodup_iff.2 distinct

theorem of_map_untimed (distinct : DistinctTypes a)
    (same : b.map Condition.untimed = a.map Condition.untimed) : DistinctTypes b :=
  (types_perm (List.Perm.of_eq same)).nodup_iff.2 distinct

theorem eq_of_type (distinct : DistinctTypes a) {first second : Condition} (hfirst : first ∈ a)
    (hsecond : second ∈ a) (type : first.type = second.type) : first = second :=
  List.inj_on_of_nodup_map distinct hfirst hsecond type

end DistinctTypes

/-! ## The comparison -/

theorem conditionsEqual_iff_subset (distinct : DistinctTypes a) :
    conditionsEqual a b = true ↔
      a.length = b.length ∧ b.map Condition.untimed ⊆ a.map Condition.untimed := by
  rw [conditionsEqual_iff]
  refine and_congr_right fun _ => ⟨fun found => ?_, fun subset condition member => ?_⟩
  · intro untimed member
    obtain ⟨condition, hcondition, rfl⟩ := List.mem_map.1 member
    obtain ⟨old, hold, hagrees⟩ := found condition hcondition
    have htype := (findCondition_eq_some_iff.1 hold).1
    exact List.mem_map.2
      ⟨old, List.mem_of_find?_eq_some hold, Condition.untimed_eq_iff.2 ⟨htype, hagrees⟩⟩
  · obtain ⟨old, hmember, hsame⟩ := List.mem_map.1 (subset (List.mem_map_of_mem member))
    obtain ⟨htype, hagrees⟩ := Condition.untimed_eq_iff.1 hsame
    exact ⟨old, htype ▸ distinct.findCondition hmember, hagrees⟩

theorem conditionsEqual_iff_perm (ha : DistinctTypes a) (hb : DistinctTypes b) :
    conditionsEqual a b = true ↔
      (b.map Condition.untimed).Perm (a.map Condition.untimed) := by
  rw [conditionsEqual_iff_subset ha]
  constructor
  · rintro ⟨length, subset⟩
    -- No condition occurs twice, so those that are found take up the whole list.
    have hlength : (a.map Condition.untimed).length ≤ (b.map Condition.untimed).length := by
      simp [length]
    exact (List.subperm_of_subset hb.nodup_untimed subset).perm_of_length_le hlength
  · intro perm
    have hlength := perm.length_eq
    rw [List.length_map, List.length_map] at hlength
    exact ⟨hlength.symm, perm.subset⟩

/-- Lists are told apart by a type that only one has, or by two conditions of one type. -/
theorem conditionsEqual_iff_agree (ha : DistinctTypes a) (hb : DistinctTypes b) :
    conditionsEqual a b = true ↔
      (∀ type, type ∈ a.map (·.type) ↔ type ∈ b.map (·.type)) ∧
        ∀ first ∈ a, ∀ second ∈ b, first.type = second.type → first.agrees second = true := by
  constructor
  · intro equal
    have hperm := (conditionsEqual_iff_perm ha hb).1 equal
    refine ⟨fun type => (types_perm hperm).symm.mem_iff, ?_⟩
    intro first hfirst second hsecond htype
    obtain ⟨old, hold, hsame⟩ :=
      List.mem_map.1 (hperm.subset (List.mem_map_of_mem hsecond))
    obtain ⟨hold_type, hagrees⟩ := Condition.untimed_eq_iff.1 hsame
    rwa [ha.eq_of_type hfirst hold (htype.trans hold_type.symm)]
  · rintro ⟨types, agree⟩
    have hperm : (a.map (·.type)).Perm (b.map (·.type)) :=
      (List.perm_ext_iff_of_nodup ha hb).2 types
    have hlength := hperm.length_eq
    rw [List.length_map, List.length_map] at hlength
    refine conditionsEqual_iff.2 ⟨hlength, fun condition member => ?_⟩
    obtain ⟨old, hold, htype⟩ := List.mem_map.1 ((types _).2 (List.mem_map_of_mem member))
    exact ⟨old, htype ▸ ha.findCondition hold, agree old hold condition member htype⟩

theorem conditionsEqual_symm (ha : DistinctTypes a) (hb : DistinctTypes b) :
    conditionsEqual b a = conditionsEqual a b := by
  rw [Bool.eq_iff_iff, conditionsEqual_iff_perm hb ha, conditionsEqual_iff_perm ha hb]
  exact List.perm_comm

theorem conditionsEqual_trans (ha : DistinctTypes a) (hb : DistinctTypes b) (hc : DistinctTypes c)
    (first : conditionsEqual a b = true) (second : conditionsEqual b c = true) :
    conditionsEqual a c = true := by
  rw [conditionsEqual_iff_perm ha hb] at first
  rw [conditionsEqual_iff_perm hb hc] at second
  rw [conditionsEqual_iff_perm ha hc]
  exact second.trans first

theorem conditionsEqual_perm {a' b' : List Condition} (ha : DistinctTypes a) (hb : DistinctTypes b)
    (hperm : a'.Perm a) (hperm' : b'.Perm b) : conditionsEqual a' b' = conditionsEqual a b := by
  have hsame := hperm.map Condition.untimed
  have hsame' := hperm'.map Condition.untimed
  rw [Bool.eq_iff_iff, conditionsEqual_iff_perm (ha.of_perm hperm) (hb.of_perm hperm'),
    conditionsEqual_iff_perm ha hb]
  constructor
  · intro equal
    exact hsame'.symm.trans (equal.trans hsame)
  · intro equal
    exact hsame'.trans (equal.trans hsame.symm)

/-- What it is to be compared by what conditions say, apart from their order and their times. -/
structure ComparedByContent (a b : List Condition) : Prop where
  iff_perm : conditionsEqual a b = true ↔
    (b.map Condition.untimed).Perm (a.map Condition.untimed)
  refl : conditionsEqual a a = true
  symm : conditionsEqual b a = conditionsEqual a b
  trans : ∀ c, DistinctTypes c → conditionsEqual a b = true → conditionsEqual b c = true →
    conditionsEqual a c = true
  unordered : ∀ a' b', a'.Perm a → b'.Perm b → conditionsEqual a' b' = conditionsEqual a b
  /-- One list has a type that the other lacks, or two conditions of a type say something else. -/
  eq_false_iff : conditionsEqual a b = false ↔
    (∃ type, ¬ (type ∈ a.map (·.type) ↔ type ∈ b.map (·.type))) ∨
      ∃ first ∈ a, ∃ second ∈ b, first.type = second.type ∧
        (first.status ≠ second.status ∨ first.reason ≠ second.reason ∨
          first.severity ≠ second.severity ∨ first.message ≠ second.message)

/-- Lists in which no type is repeated are compared by what their conditions say. -/
theorem comparison_by_content (ha : DistinctTypes a) (hb : DistinctTypes b) :
    ComparedByContent a b := by
  constructor
  case iff_perm => exact conditionsEqual_iff_perm ha hb
  case refl => exact ha.conditionsEqual_self
  case symm => exact conditionsEqual_symm ha hb
  case trans => exact fun c hc first second => conditionsEqual_trans ha hb hc first second
  case unordered => exact fun a' b' => conditionsEqual_perm ha hb
  case eq_false_iff =>
    have hdiffer : ∀ first second : Condition, ¬ first.agrees second = true ↔
        first.status ≠ second.status ∨ first.reason ≠ second.reason ∨
          first.severity ≠ second.severity ∨ first.message ≠ second.message := by
      intro first second
      rw [Condition.agrees_iff]
      simp only [Classical.not_and_iff_not_or_not, ne_eq]
    simp only [← hdiffer]
    rw [← Bool.not_eq_true, conditionsEqual_iff_agree ha hb, Classical.not_and_iff_not_or_not]
    simp only [Classical.not_forall, exists_prop]

/-- Two conditions of one report. -/
def reportedConditions : List Condition :=
  [{ type := "Ready", status := "True", lastTransitionTime := some "2025-01-01T00:00:00Z" },
    { type := "DNSDataReady", status := "True", reason := some "Ready" }]

/-- The same conditions, listed the other way round with other times. -/
def relistedConditions : List Condition :=
  [{ type := "DNSDataReady", status := "True", reason := some "Ready",
     lastTransitionTime := some "2025-01-02T00:00:00Z" },
    { type := "Ready", status := "True" }]

theorem relisted_compared :
    DistinctTypes reportedConditions ∧ DistinctTypes relistedConditions ∧
      ComparedByContent reportedConditions relistedConditions ∧
      conditionsEqual reportedConditions relistedConditions = true := by
  have hreported : DistinctTypes reportedConditions := by
    unfold DistinctTypes
    decide
  have hrelisted : DistinctTypes relistedConditions := by
    unfold DistinctTypes
    decide
  exact ⟨hreported, hrelisted, comparison_by_content hreported hrelisted, by decide⟩

/-- Where a type is repeated, the comparison depends on which list comes first. -/
example :
    let repeated : List Condition :=
      [{ type := "Ready", status := "True" }, { type := "Ready", status := "False" }]
    let uniform : List Condition :=
      [{ type := "Ready", status := "True" }, { type := "Ready", status := "True" }]
    conditionsEqual repeated uniform = true ∧ conditionsEqual uniform repeated = false := by
  decide

end NodeIdentity
