import NexusMrp.Core.Calendar
import Mathlib.Data.List.Perm.Subperm
import Mathlib.Data.List.Nodup
import Mathlib.Data.Nat.Find
import Mathlib.Data.Int.Interval

/-!
# Working-day walks

What the stepping loop of `add_working_days` and `subtract_working_days`
computes: a forward walk of `n` days ends on a working day with exactly `n`
working days after its start, and a backward walk ends on a working day with
exactly `n` working days before its start. On a calendar with a working
weekday every run of `7 * (holidays + 1)` days holds a working day, so the
walk never exhausts its budget. Together these give the lead-time round trip:
subtracting and then adding `n ≥ 1` working days lands on the first working day
on or after the start, and adding and then subtracting them lands on the last
working day on or before it. On a mask without a working weekday no walk with
days to count ever returns.
-/

namespace NexusMrp

namespace WorkCalendar

variable (calendar : WorkCalendar) (direction : Direction)

/-- `result` is the first working day on or after `date`. -/
def IsFirstWorkingDayFrom (date result : Int) : Prop :=
  date ≤ result ∧ calendar.isWorkingDay result = true ∧
    ∀ other, date ≤ other → other < result → calendar.isWorkingDay other = false

/-- `result` is the last working day on or before `date`. -/
def IsLastWorkingDayUpTo (date result : Int) : Prop :=
  result ≤ date ∧ calendar.isWorkingDay result = true ∧
    ∀ other, result < other → other ≤ date → calendar.isWorkingDay other = false

/-! ## What the counting loop counts -/

/-- The counting loop counts the working days of `(current, current + steps]`. -/
theorem countWorkingDays_eq_card (steps : Nat) (current : Int) :
    calendar.countWorkingDays steps current =
      ((Finset.Ioc current (current + steps)).filter
        (calendar.isWorkingDay · = true)).card := by
  induction steps with
  | zero => simp [countWorkingDays]
  | succ steps inductionHypothesis =>
      have interval : Finset.Ioc current (current + ((steps + 1 : Nat) : Int)) =
          insert (current + steps + 1) (Finset.Ioc current (current + steps)) := by
        ext date
        simp only [Finset.mem_Ioc, Finset.mem_insert]
        omega
      rw [countWorkingDays_add, inductionHypothesis, interval, Finset.filter_insert]
      simp only [countWorkingDays, add_zero, add_assoc]
      split_ifs
      · rw [Finset.card_insert_of_not_mem (by simp)]
      · rfl

/-- `working_days_between` counts the working days of `(start, end]`. -/
theorem workingDaysBetween_eq_card (start endDate : Int) :
    calendar.workingDaysBetween start endDate =
      ((Finset.Ioc start endDate).filter (calendar.isWorkingDay · = true)).card := by
  rcases le_or_lt start endDate with startLe | endLt
  · rw [workingDaysBetween, countWorkingDays_eq_card, Int.toNat_of_nonneg (by omega),
      add_sub_cancel]
  · rw [workingDaysBetween, Int.toNat_of_nonpos (by omega),
      Finset.Ioc_eq_empty_of_le endLt.le]
    rfl

/-! ## What a walk computes -/

/-- A forward walk that returns has counted `days` working days after its
start, and stops on a working day unless it counted none. -/
theorem walk_forward_sound {fuel : Nat} {start result : Int} {days : Nat}
    (walks : calendar.walk .forward fuel start days = some result) :
    start ≤ result ∧ calendar.workingDaysBetween start result = days ∧
      (days = 0 → result = start) ∧
      (0 < days → calendar.isWorkingDay result = true) := by
  induction fuel generalizing start days with
  | zero =>
      cases days with
      | zero => cases walks; simp
      | succ days => simp at walks
  | succ fuel inductionHypothesis =>
      cases days with
      | zero => cases (show start = result by simpa using walks); simp
      | succ days =>
          rw [walk_succ, Direction.offset_forward] at walks
          by_cases working : calendar.isWorkingDay (start + 1) = true
          · rw [if_pos working] at walks
            obtain ⟨nextLe, count, stopped, ends⟩ := inductionHypothesis walks
            have countFrom := workingDaysBetween_pred calendar (by omega : start < result)
            rw [if_pos working, count] at countFrom
            refine ⟨by omega, by omega, by omega, fun _ => ?_⟩
            rcases Nat.eq_zero_or_pos days with noDays | someDays
            · rw [stopped noDays]; exact working
            · exact ends someDays
          · rw [if_neg working] at walks
            obtain ⟨nextLe, count, -, ends⟩ := inductionHypothesis walks
            have countFrom := workingDaysBetween_pred calendar (by omega : start < result)
            rw [if_neg working, count] at countFrom
            exact ⟨by omega, by omega, by omega, fun _ => ends (by omega)⟩

/-- A backward walk that returns has counted `days` working days in
`[result, start)`, and stops on a working day unless it counted none. -/
theorem walk_backward_sound {fuel : Nat} {start result : Int} {days : Nat}
    (walks : calendar.walk .backward fuel start days = some result) :
    result ≤ start ∧ calendar.workingDaysBetween (result - 1) (start - 1) = days ∧
      (days = 0 → result = start) ∧
      (0 < days → calendar.isWorkingDay result = true) := by
  induction fuel generalizing start days with
  | zero =>
      cases days with
      | zero => cases walks; simp
      | succ days => simp at walks
  | succ fuel inductionHypothesis =>
      cases days with
      | zero => cases (show start = result by simpa using walks); simp
      | succ days =>
          rw [walk_succ, Direction.offset_backward, ← sub_eq_add_neg] at walks
          by_cases working : calendar.isWorkingDay (start - 1) = true
          · rw [if_pos working] at walks
            obtain ⟨nextLe, count, stopped, ends⟩ := inductionHypothesis walks
            have countTo := workingDaysBetween_succ calendar
              (by omega : result - 1 ≤ start - 1 - 1)
            rw [sub_add_cancel, if_pos working, count] at countTo
            refine ⟨by omega, by omega, by omega, fun _ => ?_⟩
            rcases Nat.eq_zero_or_pos days with noDays | someDays
            · rw [stopped noDays]; exact working
            · exact ends someDays
          · rw [if_neg working] at walks
            obtain ⟨nextLe, count, -, ends⟩ := inductionHypothesis walks
            have countTo := workingDaysBetween_succ calendar
              (by omega : result - 1 ≤ start - 1 - 1)
            rw [sub_add_cancel, if_neg working, count] at countTo
            exact ⟨by omega, by omega, by omega, fun _ => ends (by omega)⟩

/-! ## The walk budget suffices -/

/-- More fuel does not change a walk that returned. -/
theorem walk_fuel_mono {fuel : Nat} {start result : Int} {days : Nat}
    (walks : calendar.walk direction fuel start days = some result) (extra : Nat) :
    calendar.walk direction (fuel + extra) start days = some result := by
  induction fuel generalizing start days with
  | zero =>
      cases days with
      | zero => simpa using walks
      | succ days => simp at walks
  | succ fuel inductionHypothesis =>
      cases days with
      | zero => simpa using walks
      | succ days =>
          rw [Nat.succ_add, walk_succ]
          rw [walk_succ] at walks
          split_ifs at walks ⊢ <;> exact inductionHypothesis walks

/-- A walk with days left to count steps over the non-working days before the
next working day and counts that one. -/
theorem walk_reach {start : Int} {steps : Nat} (stepsPos : 1 ≤ steps)
    (arrives : calendar.isWorkingDay (start + direction.offset * steps) = true)
    (skips : ∀ j : Nat, 1 ≤ j → j < steps →
      calendar.isWorkingDay (start + direction.offset * j) = false)
    (fuel remaining : Nat) :
    calendar.walk direction (steps + fuel) start (remaining + 1) =
      calendar.walk direction fuel (start + direction.offset * steps) remaining := by
  induction steps generalizing start with
  | zero => omega
  | succ steps inductionHypothesis =>
      rw [Nat.succ_add, walk_succ]
      rcases Nat.eq_zero_or_pos steps with noSteps | someSteps
      · subst noSteps
        simp only [Nat.zero_add, Nat.cast_one, mul_one] at arrives ⊢
        rw [if_pos arrives]
      · have firstSkipped := skips 1 le_rfl (by omega)
        rw [Nat.cast_one, mul_one] at firstSkipped
        have shift : ∀ j : Nat, start + direction.offset + direction.offset * j =
            start + direction.offset * ((j + 1 : Nat) : Int) := fun j => by
          push_cast; ring
        rw [if_neg (by simp [firstSkipped]), inductionHypothesis someSteps
          (by rw [shift]; exact arrives)
          (fun j jPos jLt => by rw [shift]; exact skips (j + 1) (by omega) (by omega)),
          shift]

/-- Some weekday in the first seven steps from a date is the given one. -/
theorem exists_weekday_step (start : Int) (day : Fin 7) :
    ∃ steps : Nat, 1 ≤ steps ∧ steps ≤ 7 ∧
      weekdayIndex (start + direction.offset * steps) = day := by
  have dayLt := day.isLt
  cases direction
  · refine ⟨((((day : Nat) : Int) - start - 3) % 7 + 6).toNat % 7 + 1,
      by omega, by omega, Fin.ext ?_⟩
    simp only [weekdayIndex, Direction.offset_forward, one_mul]
    omega
  · refine ⟨((start + 3 - ((day : Nat) : Int)) % 7 + 6).toNat % 7 + 1,
      by omega, by omega, Fin.ext ?_⟩
    simp only [weekdayIndex, Direction.offset_backward, neg_one_mul]
    omega

/-- On a calendar with a working weekday, every `7 * (holidays + 1)` days in
either direction hold a working day: the working weekday occurs
`holidays + 1` times there, and the holiday list cannot cover them all. -/
theorem exists_working_within (valid : calendar.HasWorkingWeekday) (start : Int) :
    ∃ steps : Nat, 1 ≤ steps ∧ steps ≤ 7 * (calendar.holidays.length + 1) ∧
      calendar.isWorkingDay (start + direction.offset * steps) = true := by
  obtain ⟨day, dayWorks⟩ := valid
  obtain ⟨first, firstPos, firstLe, firstDay⟩ :=
    exists_weekday_step direction start day
  let candidate : Nat → Int := fun week =>
    start + direction.offset * ((first + 7 * week : Nat) : Int)
  have candidateDay : ∀ week, weekdayIndex (candidate week) = day := fun week => by
    have shifted : candidate week =
        start + direction.offset * first + 7 * (direction.offset * week) := by
      simp only [candidate]; push_cast; ring
    rw [shifted, weekdayIndex_add_mul_seven, firstDay]
  have candidateInjective : Function.Injective candidate := fun week other same => by
    cases direction <;> simp [candidate] at same <;> omega
  have someFree : ∃ week < calendar.holidays.length + 1,
      candidate week ∉ calendar.holidays := by
    by_contra allHolidays
    push_neg at allHolidays
    have covered : (List.range (calendar.holidays.length + 1)).map candidate ⊆
        calendar.holidays := by
      intro date member
      obtain ⟨week, weekMem, rfl⟩ := List.mem_map.mp member
      exact allHolidays week (List.mem_range.mp weekMem)
    have bound :=
      ((List.Nodup.map candidateInjective (List.nodup_range _)).subperm covered).length_le
    simp at bound
  obtain ⟨week, weekLt, free⟩ := someFree
  refine ⟨first + 7 * week, by omega, by omega, ?_⟩
  simp only [isWorkingDay, if_neg free, candidateDay, dayWorks]

/-- On a calendar with a working weekday, a walk of `days` working days
returns within its budget. -/
theorem walk_budget_returns (valid : calendar.HasWorkingWeekday) (start : Int)
    (days : Nat) :
    ∃ result, calendar.walk direction (calendar.walkBudget days) start days = some result := by
  induction days generalizing start with
  | zero => exact ⟨start, by simp⟩
  | succ days inductionHypothesis =>
      have within := calendar.exists_working_within direction valid start
      have reachable : ∃ steps : Nat, 1 ≤ steps ∧
          calendar.isWorkingDay (start + direction.offset * steps) = true :=
        within.imp fun _ found => ⟨found.1, found.2.2⟩
      classical
      let steps := Nat.find reachable
      obtain ⟨stepsPos, arrives⟩ := Nat.find_spec reachable
      obtain ⟨witness, witnessPos, witnessLe, witnessWorks⟩ := within
      have stepsLe : steps ≤ 7 * (calendar.holidays.length + 1) :=
        (Nat.find_min' reachable ⟨witnessPos, witnessWorks⟩).trans witnessLe
      have skips : ∀ j : Nat, 1 ≤ j → j < steps →
          calendar.isWorkingDay (start + direction.offset * j) = false := by
        intro j jPos jLt
        have notFound := Nat.find_min reachable jLt
        simpa [jPos] using notFound
      have budget : calendar.walkBudget (days + 1) =
          steps + (calendar.walkBudget days + (7 * (calendar.holidays.length + 1) - steps)) := by
        simp only [walkBudget]
        rw [Nat.succ_mul]
        omega
      obtain ⟨result, walks⟩ := inductionHypothesis (start + direction.offset * steps)
      refine ⟨result, ?_⟩
      rw [budget, walk_reach calendar direction stepsPos arrives skips]
      exact calendar.walk_fuel_mono direction walks _

/-- On a mask without a working weekday no day works, so a walk with days left
to count never returns, whatever its fuel. -/
theorem walk_of_not_hasWorkingWeekday (noWorkingDay : ¬calendar.HasWorkingWeekday)
    (fuel : Nat) (start : Int) {days : Nat} (daysPos : 0 < days) :
    calendar.walk direction fuel start days = none := by
  have idle : ∀ date, calendar.isWorkingDay date = false := fun date => by
    unfold isWorkingDay
    split_ifs
    · rfl
    · simpa using fun works => noWorkingDay ⟨_, works⟩
  obtain ⟨days, rfl⟩ : ∃ left, days = left + 1 := ⟨days - 1, by omega⟩
  induction fuel generalizing start with
  | zero => rfl
  | succ fuel inductionHypothesis =>
      rw [walk_succ, idle, if_neg Bool.false_ne_true]
      exact inductionHypothesis _

/-- The stepping loops return for every date and count exactly when the mask
has a working weekday; every working day is then followed by another within
`7 * (holidays + 1)` days. -/
theorem walks_return_iff_hasWorkingWeekday :
    ((∀ date days, ∃ result, calendar.addWorkingDays date days = some result) ∧
      (∀ date days, ∃ result, calendar.subtractWorkingDays date days = some result) ∧
      ∀ date, ∃ steps : Nat, 1 ≤ steps ∧ steps ≤ 7 * (calendar.holidays.length + 1) ∧
        calendar.isWorkingDay (date + steps) = true) ↔
      calendar.HasWorkingWeekday := by
  constructor
  · rintro ⟨adds, -, -⟩
    by_contra noWorkingDay
    obtain ⟨result, returns⟩ := adds 0 1
    rw [addWorkingDays, walk_of_not_hasWorkingWeekday calendar .forward noWorkingDay _ _
      Nat.one_pos] at returns
    cases returns
  · intro valid
    refine ⟨calendar.walk_budget_returns .forward valid,
      calendar.walk_budget_returns .backward valid, fun date => ?_⟩
    simpa using calendar.exists_working_within .forward valid date

/-! ## The lead-time round trip -/

/-- Subtracting `days ≥ 1` working days lands on a working day, and adding
them back returns the first working day on or after the start. -/
theorem subtractWorkingDays_then_add (valid : calendar.HasWorkingWeekday)
    {date orderDate : Int} {days : Nat} (daysPos : 0 < days)
    (subtracts : calendar.subtractWorkingDays date days = some orderDate) :
    calendar.isWorkingDay orderDate = true ∧
      ∃ result, calendar.addWorkingDays orderDate days = some result ∧
        calendar.IsFirstWorkingDayFrom date result := by
  obtain ⟨-, countBack, -, orderWorks⟩ := calendar.walk_backward_sound subtracts
  obtain ⟨result, adds⟩ := calendar.walk_budget_returns .forward valid orderDate days
  obtain ⟨orderLe, countForward, -, resultWorks⟩ := calendar.walk_forward_sound adds
  have orderLt : orderDate < date := by
    have := calendar.lt_of_workingDaysBetween_pos (countBack ▸ daysPos)
    omega
  have countBefore := workingDaysBetween_pred calendar (by omega : orderDate - 1 < date - 1)
  rw [sub_add_cancel, countBack, if_pos (orderWorks daysPos)] at countBefore
  have resultFrom : date ≤ result := by
    by_contra resultLt
    have := workingDaysBetween_mono calendar orderLe (by omega : result ≤ date - 1)
    omega
  refine ⟨orderWorks daysPos, result, adds, resultFrom, resultWorks daysPos, ?_⟩
  intro other otherFrom otherLt
  by_contra otherWorks
  rw [Bool.not_eq_false] at otherWorks
  have toOther := workingDaysBetween_add calendar (by omega : orderDate ≤ date - 1)
    (by omega : date - 1 ≤ other)
  have toResult := workingDaysBetween_add calendar (by omega : orderDate ≤ other) otherLt.le
  have atOther := one_le_workingDaysBetween calendar (by omega : date - 1 < other) otherWorks
  have atResult := one_le_workingDaysBetween calendar otherLt (resultWorks daysPos)
  omega

/-- Adding `days ≥ 1` working days lands on a working day, and subtracting them
back returns the last working day on or before the start. -/
theorem addWorkingDays_then_subtract (valid : calendar.HasWorkingWeekday)
    {date result : Int} {days : Nat} (daysPos : 0 < days)
    (adds : calendar.addWorkingDays date days = some result) :
    calendar.isWorkingDay result = true ∧
      ∃ back, calendar.subtractWorkingDays result days = some back ∧
        calendar.IsLastWorkingDayUpTo date back := by
  obtain ⟨dateLe, countForward, -, resultWorks⟩ := calendar.walk_forward_sound adds
  obtain ⟨back, subtracts⟩ := calendar.walk_budget_returns .backward valid result days
  obtain ⟨backLe, countBack, -, backWorks⟩ := calendar.walk_backward_sound subtracts
  have dateLt : date < result := calendar.lt_of_workingDaysBetween_pos (countForward ▸ daysPos)
  have backLt : back < result := by
    have := calendar.lt_of_workingDaysBetween_pos (countBack ▸ daysPos)
    omega
  have countToDate := workingDaysBetween_succ calendar (by omega : date ≤ result - 1)
  rw [sub_add_cancel, countForward, if_pos (resultWorks daysPos)] at countToDate
  have countFromBack := workingDaysBetween_pred calendar (by omega : back - 1 < result - 1)
  rw [sub_add_cancel, countBack, if_pos (backWorks daysPos)] at countFromBack
  have backUpTo : back ≤ date := by
    by_contra dateLtBack
    have split := workingDaysBetween_add calendar (by omega : date ≤ back)
      (by omega : back ≤ result - 1)
    have atBack := one_le_workingDaysBetween calendar (by omega : date < back)
      (backWorks daysPos)
    omega
  refine ⟨resultWorks daysPos, back, subtracts, backUpTo, backWorks daysPos, ?_⟩
  intro other backLtOther otherLe
  by_contra otherWorks
  rw [Bool.not_eq_false] at otherWorks
  have split := workingDaysBetween_add calendar backUpTo (by omega : date ≤ result - 1)
  have toOther := workingDaysBetween_mono calendar backLtOther.le otherLe
  have atOther := one_le_workingDaysBetween calendar backLtOther otherWorks
  omega

/-- The lead-time round trip in both directions, for every date and every
`days ≥ 1`. -/
theorem workingDays_roundTrip (valid : calendar.HasWorkingWeekday) (date : Int)
    {days : Nat} (daysPos : 0 < days) :
    (∃ orderDate, calendar.subtractWorkingDays date days = some orderDate ∧
      calendar.isWorkingDay orderDate = true ∧
      ∃ result, calendar.addWorkingDays orderDate days = some result ∧
        calendar.IsFirstWorkingDayFrom date result) ∧
    (∃ result, calendar.addWorkingDays date days = some result ∧
      calendar.isWorkingDay result = true ∧
      ∃ back, calendar.subtractWorkingDays result days = some back ∧
        calendar.IsLastWorkingDayUpTo date back) := by
  obtain ⟨orderDate, subtracts⟩ := calendar.walk_budget_returns .backward valid date days
  obtain ⟨result, adds⟩ := calendar.walk_budget_returns .forward valid date days
  exact ⟨⟨orderDate, subtracts, calendar.subtractWorkingDays_then_add valid daysPos subtracts⟩,
    ⟨result, adds, calendar.addWorkingDays_then_subtract valid daysPos adds⟩⟩

theorem workingDays_roundTrip_weekdays :
    WorkCalendar.new.HasWorkingWeekday ∧ 0 < 2 ∧
      (∃ orderDate, WorkCalendar.new.subtractWorkingDays 2 2 = some orderDate ∧
        WorkCalendar.new.isWorkingDay orderDate = true ∧
        ∃ result, WorkCalendar.new.addWorkingDays orderDate 2 = some result ∧
          WorkCalendar.new.IsFirstWorkingDayFrom 2 result) ∧
      (∃ result, WorkCalendar.new.addWorkingDays 2 2 = some result ∧
        WorkCalendar.new.isWorkingDay result = true ∧
        ∃ back, WorkCalendar.new.subtractWorkingDays result 2 = some back ∧
          WorkCalendar.new.IsLastWorkingDayUpTo 2 back) :=
  ⟨⟨0, rfl⟩, by decide, workingDays_roundTrip _ ⟨0, rfl⟩ 2 (by decide)⟩

/-- On a calendar with a working weekday, `working_days_between` counts back
the days added by `add_working_days`: they are the working days of
`(date, result]`. -/
theorem workingDaysBetween_addWorkingDays (valid : calendar.HasWorkingWeekday)
    (date : Int) (days : Nat) :
    ∃ result, calendar.addWorkingDays date days = some result ∧
      calendar.workingDaysBetween date result = days ∧
      ((Finset.Ioc date result).filter (calendar.isWorkingDay · = true)).card = days := by
  obtain ⟨result, adds⟩ := calendar.walk_budget_returns .forward valid date days
  have count := (calendar.walk_forward_sound adds).2.1
  exact ⟨result, adds, count, by rw [← workingDaysBetween_eq_card, count]⟩

theorem workingDaysBetween_addWorkingDays_weekdays :
    WorkCalendar.new.HasWorkingWeekday ∧
      ∃ result, WorkCalendar.new.addWorkingDays 1 3 = some result ∧
        WorkCalendar.new.workingDaysBetween 1 result = 3 ∧
        ((Finset.Ioc 1 result).filter (WorkCalendar.new.isWorkingDay · = true)).card = 3 :=
  ⟨⟨0, rfl⟩, workingDaysBetween_addWorkingDays _ ⟨0, rfl⟩ 1 3⟩

end WorkCalendar

end NexusMrp
