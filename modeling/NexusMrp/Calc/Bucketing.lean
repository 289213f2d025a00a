import NexusMrp.Core.Model
import Mathlib.Data.List.Sort
import Mathlib.Data.List.Dedup

/-!
# Time buckets

The kernel's time axis is the set of event dates, sorted. Both
`create_time_buckets` and `create_component_time_buckets` collect dates into a
set and sort it; `sortedDates` is that step, and its two facts, strict order
and exact membership, are all the kernel uses of an axis.
-/

namespace NexusMrp

/-- Collect dates into a set and sort it. -/
def sortedDates (dates : List Int) : List Int :=
  dates.dedup.insertionSort (· ≤ ·)

@[simp] theorem mem_sortedDates {dates : List Int} {date : Int} :
    date ∈ sortedDates dates ↔ date ∈ dates := by
  simp [sortedDates, (List.perm_insertionSort _ _).mem_iff]

theorem sortedDates_nodup (dates : List Int) : (sortedDates dates).Nodup :=
  (List.perm_insertionSort _ _).nodup_iff.mpr (List.nodup_dedup dates)

/-- An axis is strictly increasing. -/
theorem sortedDates_sorted (dates : List Int) : (sortedDates dates).Sorted (· < ·) :=
  (List.sorted_insertionSort _ _).lt_of_le (sortedDates_nodup dates)

/-- A strictly increasing list is determined by its members. -/
theorem eq_of_sorted_of_mem_iff {first second : List Int}
    (firstSorted : first.Sorted (· < ·)) (secondSorted : second.Sorted (· < ·))
    (sameMembers : ∀ date, date ∈ first ↔ date ∈ second) : first = second :=
  List.eq_of_perm_of_sorted
    ((List.perm_ext_iff_of_nodup firstSorted.nodup secondSorted.nodup).mpr sameMembers)
    firstSorted secondSorted

/-- The required dates of demands and the available dates of supplies. -/
def eventDates (demands : List Demand) (supplies : List Supply) : List Int :=
  demands.map (·.requiredDate) ++ supplies.map (·.availableDate)

/-- `BucketingCalculator::create_time_buckets`; the planning horizon it takes
is unused. -/
def BucketingCalculator.createTimeBuckets (demands : List Demand)
    (supplies : List Supply) : List Int :=
  sortedDates (eventDates demands supplies)

/-- `MrpCalculator::create_component_time_buckets`: the base axis merged with
the item's own demand and supply dates. -/
def MrpCalculator.createComponentTimeBuckets (baseTimeBuckets : List Int)
    (componentDemands : List Demand) (componentSupplies : List Supply) :
    List Int :=
  sortedDates (baseTimeBuckets ++ eventDates componentDemands componentSupplies)

/-- Keeping the item's own dates of a merged axis gives the axis without a
base. -/
theorem createComponentTimeBuckets_filter_eventDates (baseTimeBuckets : List Int)
    (componentDemands : List Demand) (componentSupplies : List Supply) :
    (MrpCalculator.createComponentTimeBuckets baseTimeBuckets componentDemands
        componentSupplies).filter (· ∈ eventDates componentDemands componentSupplies) =
      MrpCalculator.createComponentTimeBuckets [] componentDemands componentSupplies := by
  apply eq_of_sorted_of_mem_iff ((sortedDates_sorted _).filter _) (sortedDates_sorted _)
  intro date
  simp only [List.mem_filter, mem_sortedDates, List.mem_append, List.nil_append,
    decide_eq_true_eq]
  tauto

end NexusMrp
