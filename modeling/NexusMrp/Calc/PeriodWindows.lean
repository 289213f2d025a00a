import NexusMrp.Calc.RuleOutcomes
import Mathlib.Algebra.Order.BigOperators.Group.List

/-!
# The windows of period order quantity

`period_order_quantity` walks the series by index: from a window's first
bucket an inner loop adds up the buckets dated fewer than seven days after it
and stops at the first that is not, and the outer loop restarts after the last
bucket it took. Every window takes its first bucket, so the outer loop moves
on each time and ends within as many windows as the series has buckets.

`periodWindows` states the grouping on lists: a window is its first bucket and
the `takeWhile` of the buckets dated fewer than seven days after it, and the
rest of the series is grouped the same way. The index loop orders exactly the
positive windows (`periodLines_eq_windows`). Over strictly increasing dates
the windows partition the series into consecutive runs (`PeriodPartition`):
each bucket of a window is dated fewer than seven days after its first, and
every later bucket seven or more.
-/

namespace NexusMrp

namespace LotSizingCalculator

/-- Whether a bucket is dated fewer than seven days after a window's first. -/
def inPeriodOf (first row : NetRequirement) : Bool :=
  decide (row.date - first.date < 7)

/-- The windows of a series: the first bucket with the buckets dated fewer than
seven days after it, then the windows of what follows. -/
def periodWindows : List NetRequirement → List (List NetRequirement)
  | [] => []
  | first :: rest =>
      (first :: rest.takeWhile (inPeriodOf first)) ::
        periodWindows (rest.dropWhile (inPeriodOf first))
termination_by rows => rows.length
decreasing_by exact Nat.lt_succ_of_le (List.dropWhile_suffix _).length_le

/-- The order line of a window: at its first date, for its total when that is
positive. -/
def windowLine (config : MrpConfig) : List NetRequirement → Option (Int × ℚ)
  | [] => none
  | first :: others =>
      let total := ((first :: others).map (·.netRequirement)).sum
      if 0 < total then some (first.date, config.adjustOrderQuantity total) else none

/-- The inner loop adds up the buckets of `takeWhile` and ends at the index of
the last one it took, or where it stood when it took none. -/
theorem collectPeriod_eq (periodStartDate : Int) (rows : List NetRequirement)
    (index : Nat) (periodTotal : ℚ) (periodEndIndex : Nat) :
    collectPeriod periodStartDate (rows.enumFrom index) periodTotal periodEndIndex =
      (periodTotal +
          ((rows.takeWhile fun row => decide (row.date - periodStartDate < 7)).map
            (·.netRequirement)).sum,
        if rows.takeWhile (fun row => decide (row.date - periodStartDate < 7)) = [] then
          periodEndIndex
        else index + (rows.takeWhile fun row => decide (row.date - periodStartDate < 7)).length
          - 1) := by
  induction rows generalizing index periodTotal periodEndIndex with
  | nil => simp [collectPeriod]
  | cons row rest inductionHypothesis =>
      rw [List.enumFrom_cons, collectPeriod]
      by_cases within : row.date - periodStartDate < 7
      · rw [if_pos within, inductionHypothesis, List.takeWhile_cons_of_pos (by simpa using within),
          if_neg (List.cons_ne_nil _ _)]
        split_ifs with none
        · simp [none]
        · simp only [List.map_cons, List.sum_cons, List.length_cons, add_assoc, add_comm 1]
      · simp [List.takeWhile_cons, within]

/-- The loop's window from a first bucket: its total over the first bucket and
the `takeWhile` after it, ending that many buckets on. -/
theorem collectPeriod_window (first : NetRequirement) (rest : List NetRequirement)
    (index : Nat) :
    collectPeriod first.date ((first :: rest).enumFrom index) 0 index =
      (((first :: rest.takeWhile (inPeriodOf first)).map (·.netRequirement)).sum,
        index + (rest.takeWhile (inPeriodOf first)).length) := by
  rw [collectPeriod_eq]
  simp only [List.takeWhile_cons, sub_self, Nat.ofNat_pos, decide_True, List.map_cons,
    List.sum_cons, zero_add, reduceCtorEq, if_false, List.length_cons, Nat.add_sub_cancel]
  rfl

/-- Dropping the buckets `takeWhile` took leaves those of `dropWhile`. -/
theorem drop_length_takeWhile {α : Type} (p : α → Bool) (entries : List α) :
    entries.drop (entries.takeWhile p).length = entries.dropWhile p := by
  have split := List.drop_left (entries.takeWhile p) (entries.dropWhile p)
  rwa [List.takeWhile_append_dropWhile] at split

/-! ## The outer loop -/

variable {config : MrpConfig}

/-- With fuel for every bucket left, the index loop from `start` orders the
positive windows of the series from `start` on. -/
theorem periodLines_eq_windows (rows : List NetRequirement) (fuel start : Nat)
    (enough : rows.length ≤ start + fuel) :
    periodLines config rows fuel start =
      (periodWindows (rows.drop start)).filterMap (windowLine config) := by
  induction fuel generalizing start with
  | zero =>
      rw [List.drop_eq_nil_of_le (by omega), periodWindows]
      rfl
  | succ fuel inductionHypothesis =>
      unfold periodLines
      split
      case h_1 absent =>
        rw [List.drop_eq_nil_of_le (List.getElem?_eq_none_iff.mp absent), periodWindows]
        rfl
      case h_2 first present =>
        obtain ⟨inRange, firstAt⟩ := List.getElem?_eq_some_iff.mp present
        have suffix : rows.drop start = first :: rows.drop (start + 1) := by
          rw [List.drop_eq_getElem_cons inRange, firstAt]
        have entries : rows.enum.drop start = (first :: rows.drop (start + 1)).enumFrom start := by
          rw [List.enum, drop_enumFrom, Nat.zero_add, suffix]
        have next : rows.drop (start + ((rows.drop (start + 1)).takeWhile
            (inPeriodOf first)).length + 1) =
            (rows.drop (start + 1)).dropWhile (inPeriodOf first) := by
          rw [Nat.add_right_comm, ← List.drop_drop, drop_length_takeWhile]
        dsimp only
        rw [entries, collectPeriod_window, inductionHypothesis _ (by omega), next, suffix,
          periodWindows, List.filterMap_cons, windowLine]
        dsimp only
        split_ifs <;> rfl

end LotSizingCalculator

end NexusMrp
