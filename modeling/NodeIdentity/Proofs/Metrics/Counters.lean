import Mathlib.Data.List.Induction
import NodeIdentity.Metrics.Exposition
import NodeIdentity.Proofs.Data.Dict

/-!
# Readings of counters

What a family of counters shows is the number of pairs that were counted, sorted by their labels.
Counters are told apart by both labels run together, so this needs pairs that no such text mixes up.
The durations of the reconciliations of a kind are as many as its reconciliations.
-/

namespace NodeIdentity.Metrics

/-- The sum of the samples with certain labels. -/
def Counters.sum (counters : Counters) (counts : CountedPair → Bool) : Nat :=
  counters.sumOf (fun counter => if counts counter.1 then counter.2 else 0)

/-- Pairs that stay apart when their labels are run together. -/
def ToldApart (pairs : CountedPair → Prop) : Prop :=
  ∀ one other, pairs one → pairs other → one.key = other.key → one = other

/-- Every counter was made for one of some pairs, and stands under its key. -/
def Counters.MadeFor (counters : Counters) (pairs : CountedPair → Prop) : Prop :=
  ∀ key first number, counters.get? key = some (first, number) → first.key = key ∧ pairs first

section Pairs

variable {pairs : CountedPair → Prop} {counters : Counters} {pair : CountedPair}

theorem Counters.MadeFor.count (made : counters.MadeFor pairs) (h : pairs pair) :
    (counters.count pair).MadeFor pairs := by
  intro key first number hget
  unfold Counters.count at hget
  cases hbound : counters.get? pair.key with
  | some counter =>
      obtain ⟨other, earlier⟩ := counter
      rw [hbound] at hget
      dsimp only at hget
      rw [Dict.get?_insert] at hget
      split at hget
      · rename_i hkey
        cases hget
        exact hkey ▸ made pair.key first earlier hbound
      · exact made key first number hget
  | none =>
      rw [hbound] at hget
      dsimp only at hget
      rw [Dict.get?_insert] at hget
      split at hget
      · rename_i hkey
        cases hget
        exact ⟨hkey.symm, h⟩
      · exact made key first number hget

/-- Counting a pair raises the sums that it belongs to, and no other. -/
theorem Counters.MadeFor.sum_count (made : counters.MadeFor pairs) (apart : ToldApart pairs)
    (h : pairs pair) (counts : CountedPair → Bool) :
    (counters.count pair).sum counts = counters.sum counts + if counts pair then 1 else 0 := by
  unfold Counters.sum Counters.count
  cases hbound : counters.get? pair.key with
  | some counter =>
      obtain ⟨first, earlier⟩ := counter
      obtain ⟨hkey, hfirst⟩ := made pair.key first earlier hbound
      -- The counter under this key was made for the same pair: labels run together tell pairs apart.
      have hsame : first = pair := apart first pair hfirst h hkey
      subst hsame
      have hinsert := Dict.sumOf_insert (fun counter => if counts counter.1 then counter.2 else 0)
        counters first.key (first, earlier + 1)
      rw [hbound] at hinsert
      dsimp only [Option.map_some, Option.getD_some] at hinsert ⊢
      by_cases hcounts : counts first = true
      · simp only [if_pos hcounts] at hinsert ⊢
        omega
      · simp only [if_neg hcounts] at hinsert ⊢
        omega
  | none =>
      have hinsert := Dict.sumOf_insert (fun counter => if counts counter.1 then counter.2 else 0)
        counters pair.key (pair, 1)
      rw [hbound] at hinsert
      exact hinsert

theorem Counters.MadeFor.sum_foldl (made : counters.MadeFor pairs) (apart : ToldApart pairs)
    {counted : List CountedPair} (h : ∀ pair ∈ counted, pairs pair)
    (counts : CountedPair → Bool) :
    (counted.foldl Counters.count counters).sum counts =
      counters.sum counts + counted.countP counts := by
  induction counted generalizing counters with
  | nil => rfl
  | cons first rest ih =>
      obtain ⟨hfirst, hrest⟩ := List.forall_mem_cons.1 h
      rw [List.foldl_cons, ih (made.count hfirst) hrest, made.sum_count apart hfirst,
        List.countP_cons]
      omega

end Pairs

/-- A family shows how many of the pairs that it counted have certain labels. -/
theorem CounterFamily.sum_counters (family : CounterFamily) {pairs : CountedPair → Prop}
    (apart : ToldApart pairs) {measurements : List Measurement}
    (h : ∀ pair ∈ measurements.filterMap family.pair?, pairs pair)
    (counts : CountedPair → Bool) :
    (family.counters measurements).sum counts =
      (measurements.filterMap family.pair?).countP counts := by
  have hempty : Counters.MadeFor ∅ pairs := fun _ _ _ hget => nomatch hget
  have hsum := hempty.sum_foldl apart h counts
  rw [show Counters.sum ∅ counts = 0 from rfl, Nat.zero_add] at hsum
  exact hsum

/-! ## Durations -/

/-- How many durations are shown for a kind. -/
def durationCount (measurements : List Measurement) (kind : String) : Nat :=
  (((durations measurements).get? kind).getD []).length

theorem durationCount_eq (measurements : List Measurement) (kind : String) :
    durationCount measurements kind =
      (measurements.filterMap reconciliations.pair?).countP (fun pair => pair.subject = kind) := by
  -- The durations are a fold from the left, so it is the last measurement that is split off.
  induction measurements using List.reverseRecOn with
  | nil => rfl
  | append_singleton earlier last ih =>
      rw [List.filterMap_append, List.countP_append, ← ih]
      unfold durationCount durations
      rw [List.foldl_append]
      cases last with
      | reconciliation other result nanos =>
          simp only [List.foldl_cons, List.foldl_nil, List.filterMap_cons, List.filterMap_nil,
            reconciliations, List.countP_singleton, Dict.get?_insert]
          by_cases hkind : kind = other
          · subst hkind
            simp
          · simp [hkind, Ne.symm hkind]
      | childWrite other outcome => rfl
      | transition type state => rfl
      | failure other category => rfl

end NodeIdentity.Metrics
