import NexusMrp.Core.Model

/-!
# Working calendar

`WorkCalendar` holds a weekday mask and a holiday list. Adding and
subtracting working days are one loop that steps a day at a time in either
direction and counts down on working days; `working_days_between` counts the
working days it steps over.

The stepping loop has no bound of its own: on a mask without a working day it
walks to the end of the date range and panics. The model runs it for as many
days as any calendar with a working weekday can need (`walkBudget`) and
returns `none` when that budget is spent. `from_shift_data` builds such a
mask from a shift vector with no working entry, the empty one included.
-/

namespace NexusMrp

/-- The weekday of a date counted from Monday, `num_days_from_monday`; day 0
is a Thursday. -/
def weekdayIndex (date : Int) : Fin 7 :=
  ⟨((date + 3) % 7).toNat, by omega⟩

/-- Whole weeks later or earlier, the weekday is the same. -/
@[simp] theorem weekdayIndex_add_mul_seven (date weeks : Int) :
    weekdayIndex (date + 7 * weeks) = weekdayIndex date :=
  Fin.ext (by simp only [weekdayIndex]; omega)

/-- `WorkCalendar`; its `calendar_id` is read by no modelled function. -/
structure WorkCalendar where
  workingDays : Fin 7 → Bool
  holidays : List Int

/-- The direction of a working-day walk: `succ_opt` or `pred_opt`. -/
inductive Direction
  | forward
  | backward
  deriving DecidableEq, Repr

/-- The day offset of one step in a direction. -/
def Direction.offset : Direction → Int
  | .forward => 1
  | .backward => -1

@[simp] theorem Direction.offset_forward : Direction.forward.offset = 1 := rfl

@[simp] theorem Direction.offset_backward : Direction.backward.offset = -1 := rfl

namespace WorkCalendar

/-- `WorkCalendar::new`: Monday to Friday, no holidays. -/
def new : WorkCalendar :=
  { workingDays := fun day => decide (day.val < 5), holidays := [] }

/-- `WorkCalendar::new_24_7`: every day works. -/
def new247 : WorkCalendar :=
  { workingDays := fun _ => true, holidays := [] }

/-- `WorkCalendar::from_shift_data`: the first seven entries of the shift
vector set the mask, and the days it does not reach are off. -/
def fromShiftData (workingDaysVec : List Bool) (holidays : List Int) : WorkCalendar :=
  { workingDays := fun day => workingDaysVec.getD day.val false, holidays }

/-- `WorkCalendar::is_working_day`. -/
def isWorkingDay (calendar : WorkCalendar) (date : Int) : Bool :=
  if date ∈ calendar.holidays then false
  else calendar.workingDays (weekdayIndex date)

/-- Some weekday of the mask is a working day. -/
def HasWorkingWeekday (calendar : WorkCalendar) : Prop :=
  ∃ day, calendar.workingDays day = true

/-- A shift vector with no working entry, the empty one included, builds a
mask without a working weekday. -/
theorem not_hasWorkingWeekday_fromShiftData {workingDaysVec : List Bool}
    (allOff : ∀ shift ∈ workingDaysVec, shift = false) (holidays : List Int) :
    ¬(fromShiftData workingDaysVec holidays).HasWorkingWeekday := by
  rintro ⟨day, works⟩
  simp only [fromShiftData, List.getD_eq_getElem?_getD] at works
  cases found : workingDaysVec[day.val]? with
  | none => simp [found] at works
  | some shift =>
      rw [found, Option.getD_some] at works
      exact absurd (allOff shift (List.getElem?_mem found)) (by simp [works])

/-- The loop of `add_working_days` and `subtract_working_days`: step one day
in `direction` and count down `remaining` on working days, for at most `fuel`
steps. -/
def walk (calendar : WorkCalendar) (direction : Direction) :
    Nat → Int → Nat → Option Int
  | _, current, 0 => some current
  | 0, _, _ + 1 => none
  | fuel + 1, current, remaining + 1 =>
      if calendar.isWorkingDay (current + direction.offset) then
        calendar.walk direction fuel (current + direction.offset) remaining
      else
        calendar.walk direction fuel (current + direction.offset) (remaining + 1)

/-- Days a walk of `days` working days can take on a calendar with a working
weekday: every `7 * (holidays + 1)` consecutive days hold a working day. -/
def walkBudget (calendar : WorkCalendar) (days : Nat) : Nat :=
  days * (7 * (calendar.holidays.length + 1))

/-- `WorkCalendar::add_working_days`. -/
def addWorkingDays (calendar : WorkCalendar) (startDate : Int) (days : Nat) :
    Option Int :=
  calendar.walk .forward (calendar.walkBudget days) startDate days

/-- `WorkCalendar::subtract_working_days`. -/
def subtractWorkingDays (calendar : WorkCalendar) (startDate : Int)
    (days : Nat) : Option Int :=
  calendar.walk .backward (calendar.walkBudget days) startDate days

/-- The loop of `working_days_between`, run for `steps` days from `current`. -/
def countWorkingDays (calendar : WorkCalendar) : Nat → Int → Nat
  | 0, _ => 0
  | steps + 1, current =>
      (if calendar.isWorkingDay (current + 1) then 1 else 0) +
        calendar.countWorkingDays steps (current + 1)

/-- `WorkCalendar::working_days_between`: the working days of `(start, end]`. -/
def workingDaysBetween (calendar : WorkCalendar) (start endDate : Int) : Nat :=
  calendar.countWorkingDays (endDate - start).toNat start

variable (calendar : WorkCalendar) (direction : Direction)

@[simp] theorem walk_zero_remaining (fuel : Nat) (current : Int) :
    calendar.walk direction fuel current 0 = some current := by
  cases fuel <;> rfl

@[simp] theorem walk_zero_fuel (current : Int) (remaining : Nat) :
    calendar.walk direction 0 current (remaining + 1) = none := rfl

theorem walk_succ (fuel : Nat) (current : Int) (remaining : Nat) :
    calendar.walk direction (fuel + 1) current (remaining + 1) =
      if calendar.isWorkingDay (current + direction.offset) then
        calendar.walk direction fuel (current + direction.offset) remaining
      else
        calendar.walk direction fuel (current + direction.offset) (remaining + 1) :=
  rfl

theorem countWorkingDays_add (first second : Nat) (current : Int) :
    calendar.countWorkingDays (first + second) current =
      calendar.countWorkingDays first current +
        calendar.countWorkingDays second (current + first) := by
  induction first generalizing current with
  | zero => simp [countWorkingDays]
  | succ first inductionHypothesis =>
      rw [Nat.succ_add, countWorkingDays, countWorkingDays, inductionHypothesis]
      push_cast
      rw [add_assoc current 1]
      ring_nf

@[simp] theorem workingDaysBetween_self (date : Int) :
    calendar.workingDaysBetween date date = 0 := by
  simp [workingDaysBetween, countWorkingDays]

/-- Counts over adjacent intervals add up. -/
theorem workingDaysBetween_add {first middle last : Int}
    (firstLe : first ≤ middle) (middleLe : middle ≤ last) :
    calendar.workingDaysBetween first last =
      calendar.workingDaysBetween first middle +
        calendar.workingDaysBetween middle last := by
  have lengths : (last - first).toNat = (middle - first).toNat + (last - middle).toNat := by
    omega
  have shifted : first + ((middle - first).toNat : Int) = middle := by omega
  rw [workingDaysBetween, lengths, countWorkingDays_add, shifted]
  rfl

/-- The count over `(start, end + 1]` adds the last day. -/
theorem workingDaysBetween_succ {start endDate : Int} (startLe : start ≤ endDate) :
    calendar.workingDaysBetween start (endDate + 1) =
      calendar.workingDaysBetween start endDate +
        (if calendar.isWorkingDay (endDate + 1) then 1 else 0) := by
  rw [workingDaysBetween_add calendar startLe (by omega : endDate ≤ endDate + 1)]
  simp [workingDaysBetween, show endDate + 1 - endDate = 1 by ring, countWorkingDays]

/-- The count over `(start, end]` starts with the day after `start`. -/
theorem workingDaysBetween_pred {start endDate : Int} (startLt : start < endDate) :
    calendar.workingDaysBetween start endDate =
      (if calendar.isWorkingDay (start + 1) then 1 else 0) +
        calendar.workingDaysBetween (start + 1) endDate := by
  rw [workingDaysBetween_add calendar (by omega : start ≤ start + 1) startLt]
  simp [workingDaysBetween, show start + 1 - start = 1 by ring, countWorkingDays]

/-- The count only grows as the interval's end moves right. -/
theorem workingDaysBetween_mono {start middle last : Int}
    (startLe : start ≤ middle) (middleLe : middle ≤ last) :
    calendar.workingDaysBetween start middle ≤
      calendar.workingDaysBetween start last := by
  rw [workingDaysBetween_add calendar startLe middleLe]
  omega

/-- Only a nonempty interval holds a working day. -/
theorem lt_of_workingDaysBetween_pos {start endDate : Int}
    (counted : 0 < calendar.workingDaysBetween start endDate) : start < endDate := by
  by_contra notLt
  rw [workingDaysBetween, Int.toNat_eq_zero.mpr (by omega), countWorkingDays] at counted
  exact lt_irrefl 0 counted

/-- A working day at the end of a nonempty interval is counted. -/
theorem one_le_workingDaysBetween {start endDate : Int} (startLt : start < endDate)
    (working : calendar.isWorkingDay endDate = true) :
    1 ≤ calendar.workingDaysBetween start endDate := by
  have predLe : start ≤ endDate - 1 := by omega
  have count := workingDaysBetween_succ calendar predLe
  rw [sub_add_cancel, working, if_pos rfl] at count
  omega

end WorkCalendar

end NexusMrp
