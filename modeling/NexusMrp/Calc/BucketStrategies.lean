import NexusMrp.Calc.Bucketing
import Mathlib.Data.List.Destutter

/-!
# Bucketing strategies and merging

`create_buckets_by_strategy` steps from a start date by a day, a week or the
source's thirty days for as long as it has not passed the end date. Its
buckets start at the start date, are one step apart, stay within the end
date and stop within a step of it, so every date of the horizon falls in the
period of one bucket (`createBucketsByStrategy_buckets`). The model runs the
loop for one bucket per day of the horizon at most, which every step of at
least a day respects.

`merge_buckets` sorts and drops adjacent repeats. `create_time_buckets`
collects the dates it has not seen yet and ends with the same two steps; it
returns exactly `sortedDates` of the event dates, the axis the kernel is
modelled with (`createTimeBuckets_collected`).
-/

namespace NexusMrp

/-- `BucketingStrategy`. -/
inductive BucketingStrategy
  | daily
  | weekly
  | monthly
  deriving DecidableEq, Repr

/-- The days one step of a strategy moves: a day, a week, and for a month the
thirty days of the source's simplified implementation. -/
def BucketingStrategy.days : BucketingStrategy → Nat
  | .daily => 1
  | .weekly => 7
  | .monthly => 30

namespace BucketingCalculator

/-- The `while current <= end_date` loop of `create_buckets_by_strategy`, for
at most `fuel` buckets. -/
def bucketLoop (endDate : Int) (step : Nat) : Nat → Int → List Int
  | 0, _ => []
  | fuel + 1, current =>
      if current ≤ endDate then current :: bucketLoop endDate step fuel (current + step) else []

/-- `BucketingCalculator::create_buckets_by_strategy`, with fuel for one bucket
per day of the horizon. -/
def createBucketsByStrategy (startDate endDate : Int) (strategy : BucketingStrategy) :
    List Int :=
  bucketLoop endDate strategy.days ((endDate - startDate).toNat + 1) startDate

/-- `BucketingCalculator::merge_buckets`: sort, then drop adjacent repeats. -/
def mergeBuckets (buckets : List Int) : List Int :=
  (buckets.insertionSort (· ≤ ·)).destutter (· ≠ ·)

/-- The collecting loops of `create_time_buckets`: push each date not yet
collected. -/
def collectDates (collected : List Int) : List Int → List Int
  | [] => collected
  | date :: rest => collectDates (if date ∈ collected then collected else collected ++ [date]) rest

/-- `BucketingCalculator::create_time_buckets` as the source computes it: the
demand dates and then the supply dates not yet collected, sorted, without
adjacent repeats. -/
def createTimeBucketsLoop (demands : List Demand) (supplies : List Supply) : List Int :=
  mergeBuckets (collectDates [] (eventDates demands supplies))

/-! ## Strategy buckets -/

/-- Buckets of a horizon: the first at the start date when the horizon is not
empty, each one step after the previous, none past the end date, the last
within a step of it, and every date of the horizon in the period of a
bucket. -/
structure StrategyBuckets (startDate endDate : Int) (step : Nat) (buckets : List Int) :
    Prop where
  first : buckets.head? = if startDate ≤ endDate then some startDate else none
  spaced : buckets.Chain' fun earlier later => later = earlier + (step : Int)
  withinEnd : ∀ bucket ∈ buckets, bucket ≤ endDate
  reachesEnd : ∀ last ∈ buckets.getLast?, endDate < last + step
  covers : ∀ date, startDate ≤ date → date ≤ endDate →
    ∃ bucket ∈ buckets, bucket ≤ date ∧ date < bucket + step

/-- A horizon that ends before it starts has no buckets. -/
theorem strategyBuckets_nil {startDate endDate : Int} {step : Nat} (ended : endDate < startDate) :
    StrategyBuckets startDate endDate step [] :=
  ⟨by rw [if_neg (by omega)]; rfl, List.chain'_nil, by simp, by simp, fun _ _ _ => by omega⟩

/-- With fuel for every day left, the bucket loop from `current` returns the
buckets of the horizon from `current` to the end date. -/
theorem bucketLoop_buckets {endDate : Int} {step : Nat} (stepPos : 0 < step) (fuel : Nat)
    (current : Int) (enough : endDate - current < fuel) :
    StrategyBuckets current endDate step (bucketLoop endDate step fuel current) := by
  induction fuel generalizing current with
  | zero => exact strategyBuckets_nil (by omega)
  | succ fuel inductionHypothesis =>
      rw [bucketLoop]
      split_ifs with started
      · obtain ⟨first, spaced, withinEnd, reachesEnd, covers⟩ :=
          inductionHypothesis (current + step) (by omega)
        refine ⟨by rw [if_pos started]; rfl,
          List.chain'_cons'.mpr ⟨fun next found => ?_, spaced⟩,
          List.forall_mem_cons.mpr ⟨started, withinEnd⟩, fun last found => ?_,
          fun date from_ to_ => ?_⟩
        · rw [first] at found
          split_ifs at found
          · exact (Option.some.inj found).symm
          · cases found
        · cases rest : bucketLoop endDate step fuel (current + step) with
          | nil =>
              rw [rest] at first found
              split_ifs at first with past
              · cases first
              · simp only [List.getLast?_singleton, Option.mem_def, Option.some.injEq] at found
                omega
          | cons next later =>
              rw [rest, List.getLast?_cons_cons] at found
              exact reachesEnd last (rest ▸ found)
        · by_cases inFirst : date < current + step
          · exact ⟨current, List.mem_cons_self _ _, from_, inFirst⟩
          · obtain ⟨bucket, member, bucketLe, dateLt⟩ := covers date (by omega) to_
            exact ⟨bucket, List.mem_cons_of_mem _ member, bucketLe, dateLt⟩
      · exact strategyBuckets_nil (by omega)

/-- `create_buckets_by_strategy` returns the buckets of its horizon, one step
of its strategy apart: from the start date, none past the end date, and every
date of the horizon in the period of one of them. -/
theorem createBucketsByStrategy_buckets (startDate endDate : Int)
    (strategy : BucketingStrategy) :
    StrategyBuckets startDate endDate strategy.days
      (createBucketsByStrategy startDate endDate strategy) :=
  bucketLoop_buckets (by cases strategy <;> decide) _ _ (by omega)

example : createBucketsByStrategy 0 20 .weekly = [0, 7, 14] := by decide

/-! ## Merging -/

/-- Dropping adjacent repeats of a list sorted from `first` on keeps its members
and leaves it strictly increasing. -/
theorem destutter'_sorted {first : Int} {rest : List Int}
    (sorted : (first :: rest).Sorted (· ≤ ·)) :
    (rest.destutter' (· ≠ ·) first).Sorted (· < ·) ∧
      ∀ date, date ∈ rest.destutter' (· ≠ ·) first ↔ date ∈ first :: rest := by
  induction rest generalizing first with
  | nil => exact ⟨List.sorted_singleton _, fun _ => Iff.rfl⟩
  | cons next later inductionHypothesis =>
      obtain ⟨firstLe, laterSorted⟩ := List.sorted_cons.mp sorted
      by_cases repeated : first = next
      · subst repeated
        rw [List.destutter'_cons_neg _ (not_not.mpr rfl)]
        obtain ⟨increasing, members⟩ :=
          inductionHypothesis (List.sorted_cons.mpr ⟨fun date member =>
            firstLe date (List.mem_cons_of_mem _ member), (List.sorted_cons.mp laterSorted).2⟩)
        exact ⟨increasing, fun date => by simp [members]⟩
      · rw [List.destutter'_cons_pos _ repeated]
        obtain ⟨increasing, members⟩ := inductionHypothesis laterSorted
        have firstLt : first < next :=
          lt_of_le_of_ne (firstLe next (List.mem_cons_self _ _)) repeated
        refine ⟨List.sorted_cons.mpr ⟨fun date member => ?_, increasing⟩,
          fun date =>
            List.mem_cons.trans ((or_congr_right (members date)).trans List.mem_cons.symm)⟩
        rcases List.mem_cons.mp ((members date).mp member) with rfl | member
        · exact firstLt
        · exact firstLt.trans_le ((List.sorted_cons.mp laterSorted).1 date member)

/-- `merge_buckets` returns the distinct dates it is given, in increasing
order. -/
theorem mergeBuckets_eq_sortedDates (buckets : List Int) :
    mergeBuckets buckets = sortedDates buckets := by
  have sorted := List.sorted_insertionSort (· ≤ ·) buckets
  have members (date : Int) : date ∈ buckets.insertionSort (· ≤ ·) ↔ date ∈ buckets :=
    (List.perm_insertionSort _ _).mem_iff
  unfold mergeBuckets
  cases sortedBuckets : buckets.insertionSort (· ≤ ·) with
  | nil =>
      have empty : buckets = [] := List.eq_nil_of_subset_nil fun date member =>
        sortedBuckets ▸ (members date).mpr member
      simp [empty, sortedDates]
  | cons first rest =>
      rw [sortedBuckets] at sorted members
      obtain ⟨increasing, kept⟩ := destutter'_sorted sorted
      rw [List.destutter_cons']
      exact eq_of_sorted_of_mem_iff increasing (sortedDates_sorted buckets) fun date => by
        rw [kept, members, mem_sortedDates]

/-- `merge_buckets` normalises a list of buckets: it returns them strictly
increasing with the same dates, merging again changes nothing, and the buckets
of `create_buckets_by_strategy` are already merged. -/
theorem mergeBuckets_normalizes (buckets : List Int) (startDate endDate : Int)
    (strategy : BucketingStrategy) :
    (mergeBuckets buckets).Sorted (· < ·) ∧
      (∀ date, date ∈ mergeBuckets buckets ↔ date ∈ buckets) ∧
      mergeBuckets (mergeBuckets buckets) = mergeBuckets buckets ∧
      mergeBuckets (createBucketsByStrategy startDate endDate strategy) =
        createBucketsByStrategy startDate endDate strategy := by
  have stepPos : 0 < strategy.days := by cases strategy <;> decide
  have increasing : (createBucketsByStrategy startDate endDate strategy).Sorted (· < ·) :=
    List.chain'_iff_pairwise.mp ((bucketLoop_buckets stepPos _ startDate (by omega)).spaced.imp
      fun earlier later spaced => by omega)
  simp only [mergeBuckets_eq_sortedDates]
  exact ⟨sortedDates_sorted _, fun _ => mem_sortedDates,
    eq_of_sorted_of_mem_iff (sortedDates_sorted _) (sortedDates_sorted _) fun _ => by simp,
    eq_of_sorted_of_mem_iff (sortedDates_sorted _) increasing fun _ => mem_sortedDates⟩

theorem mem_collectDates (collected dates : List Int) (date : Int) :
    date ∈ collectDates collected dates ↔ date ∈ collected ∨ date ∈ dates := by
  induction dates generalizing collected with
  | nil => simp [collectDates]
  | cons next rest inductionHypothesis =>
      rw [collectDates, inductionHypothesis, List.mem_cons]
      split_ifs with seen
      · constructor
        · tauto
        · rintro (member | rfl | member) <;> tauto
      · rw [List.mem_append, List.mem_singleton]
        tauto

/-- `create_time_buckets`, collecting unseen dates and then sorting and
dropping repeats, returns the strictly increasing list of the distinct demand
and supply dates, the axis the kernel is modelled with. -/
theorem createTimeBuckets_collected (demands : List Demand) (supplies : List Supply) :
    createTimeBucketsLoop demands supplies = createTimeBuckets demands supplies := by
  rw [createTimeBucketsLoop, mergeBuckets_eq_sortedDates, createTimeBuckets]
  exact eq_of_sorted_of_mem_iff (sortedDates_sorted _) (sortedDates_sorted _) fun date => by
    simp [mem_collectDates]

end BucketingCalculator

end NexusMrp
