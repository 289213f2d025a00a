import NexusMrp.Core.WorkingDays

/-!
# Holidays and the nearest working days

`WorkCalendar::add_holiday` pushes a date that is not yet a holiday and sorts
the list. After any sequence of calls the calendar keeps its weekday mask, its
holidays are the old ones and the added dates, a strictly increasing holiday
list stays strictly increasing, and a date works exactly when it worked before
and was not added (`addHolidays_holidaysAdded`).

Holidays only take working days away. When every working day of one calendar
is a working day of another (`WorksWithin`), the first counts no more working
days over any interval, so its forward walks end no earlier and its backward
walks no later (`WorksWithin.leadTimes`): a holiday never shortens a lead time.
Both rest on the walks stopping at the first date that completes their count
(`addWorkingDays_le_of_count`, `le_subtractWorkingDays_of_count`), which also
makes `next_working_day` and `previous_working_day` the nearest working days
after and before a date.
-/

namespace NexusMrp

namespace WorkCalendar

/-- `WorkCalendar::with_holidays`. -/
def withHolidays (calendar : WorkCalendar) (holidays : List Int) : WorkCalendar :=
  { calendar with holidays }

/-- `WorkCalendar::add_holiday`: push a date that is not yet a holiday, then
sort; any sort gives the one increasing order of distinct dates. -/
def addHoliday (calendar : WorkCalendar) (date : Int) : WorkCalendar :=
  if date ∈ calendar.holidays then calendar
  else { calendar with holidays := (calendar.holidays ++ [date]).insertionSort (· ≤ ·) }

/-- The calendar after `add_holiday` for each date in turn. -/
def addHolidays (calendar : WorkCalendar) (dates : List Int) : WorkCalendar :=
  dates.foldl addHoliday calendar

/-- `WorkCalendar::next_working_day`. -/
def nextWorkingDay (calendar : WorkCalendar) (date : Int) : Option Int :=
  calendar.addWorkingDays date 1

/-- `WorkCalendar::previous_working_day`. -/
def previousWorkingDay (calendar : WorkCalendar) (date : Int) : Option Int :=
  calendar.subtractWorkingDays date 1

/-- Every working day of `fewer` is a working day of `more`. -/
def WorksWithin (fewer more : WorkCalendar) : Prop :=
  ∀ date, fewer.isWorkingDay date = true → more.isWorkingDay date = true

section

variable (calendar : WorkCalendar)

/-! ## Adding holidays -/

@[simp] theorem addHoliday_workingDays (date : Int) :
    (calendar.addHoliday date).workingDays = calendar.workingDays := by
  unfold addHoliday
  split_ifs <;> rfl

theorem mem_addHoliday {date other : Int} :
    other ∈ (calendar.addHoliday date).holidays ↔ other ∈ calendar.holidays ∨ other = date := by
  unfold addHoliday
  split_ifs with present
  · exact ⟨.inl, fun member => member.elim id (· ▸ present)⟩
  · simp [(List.perm_insertionSort _ _).mem_iff]

theorem addHoliday_sorted {date : Int} (sorted : calendar.holidays.Sorted (· < ·)) :
    (calendar.addHoliday date).holidays.Sorted (· < ·) := by
  unfold addHoliday
  split_ifs with present
  · exact sorted
  · have nodup : (calendar.holidays ++ [date]).Nodup :=
      sorted.nodup.append (List.nodup_singleton _) (List.disjoint_singleton.mpr present)
    exact (List.sorted_insertionSort _ _).lt_of_le
      ((List.perm_insertionSort _ _).nodup_iff.mpr nodup)

/-- A sequence of `add_holiday` calls keeps the weekday mask, adds its dates to
the holidays, and keeps a strictly increasing holiday list so. -/
theorem addHolidays_holidays (dates : List Int) :
    (calendar.addHolidays dates).workingDays = calendar.workingDays ∧
      (∀ other, other ∈ (calendar.addHolidays dates).holidays ↔
        other ∈ calendar.holidays ∨ other ∈ dates) ∧
      (calendar.holidays.Sorted (· < ·) →
        (calendar.addHolidays dates).holidays.Sorted (· < ·)) := by
  induction dates generalizing calendar with
  | nil => exact ⟨rfl, fun other => by simp [addHolidays], id⟩
  | cons date rest inductionHypothesis =>
      obtain ⟨workingDays, mem, sorted⟩ := inductionHypothesis (calendar.addHoliday date)
      refine ⟨workingDays.trans (calendar.addHoliday_workingDays date), fun other => ?_,
        fun increasing => sorted (calendar.addHoliday_sorted increasing)⟩
      rw [addHolidays, List.foldl_cons, ← addHolidays, mem, mem_addHoliday, List.mem_cons,
        or_assoc]

theorem isWorkingDay_addHolidays (dates : List Int) (date : Int) :
    (calendar.addHolidays dates).isWorkingDay date =
      (calendar.isWorkingDay date && !decide (date ∈ dates)) := by
  obtain ⟨workingDays, mem, -⟩ := calendar.addHolidays_holidays dates
  by_cases holiday : date ∈ calendar.holidays <;> by_cases added : date ∈ dates <;>
    simp [isWorkingDay, workingDays, mem, holiday, added]

/-- What a sequence of `add_holiday` calls leaves: the weekday mask as it was,
the old holidays and the added dates, a strictly increasing list if it was
one, and as working days those that worked and were not added. -/
structure HolidaysAdded (dates : List Int) (after : WorkCalendar) : Prop where
  workingDays : after.workingDays = calendar.workingDays
  mem : ∀ other, other ∈ after.holidays ↔ other ∈ calendar.holidays ∨ other ∈ dates
  sorted : calendar.holidays.Sorted (· < ·) → after.holidays.Sorted (· < ·)
  isWorkingDay : ∀ date,
    after.isWorkingDay date = (calendar.isWorkingDay date && !decide (date ∈ dates))

/-- Every sequence of `add_holiday` calls adds exactly its dates as holidays,
keeps a strictly increasing holiday list so, and takes exactly those dates out
of the working days. -/
theorem addHolidays_holidaysAdded (dates : List Int) :
    calendar.HolidaysAdded dates (calendar.addHolidays dates) :=
  have kept := calendar.addHolidays_holidays dates
  ⟨kept.1, kept.2.1, kept.2.2, calendar.isWorkingDay_addHolidays dates⟩

example : (WorkCalendar.new.addHolidays [9, 4, 9]).holidays = [4, 9] := by decide

end

/-! ## Fewer working days -/

section

variable {fewer more : WorkCalendar}

/-- Adding holidays leaves a calendar working within the one before. -/
theorem worksWithin_addHolidays (calendar : WorkCalendar) (dates : List Int) :
    (calendar.addHolidays dates).WorksWithin calendar := fun date works => by
  rw [isWorkingDay_addHolidays, Bool.and_eq_true] at works
  exact works.1

/-- More holidays on the same mask leave a calendar working within the one
before. -/
theorem worksWithin_withHolidays (calendar : WorkCalendar) {holidays : List Int}
    (covers : calendar.holidays ⊆ holidays) :
    (calendar.withHolidays holidays).WorksWithin calendar := fun date works => by
  unfold withHolidays isWorkingDay at works
  unfold isWorkingDay
  split_ifs at works with holiday
  rw [if_neg fun old => holiday (covers old)]
  exact works

theorem WorksWithin.hasWorkingWeekday (within : fewer.WorksWithin more)
    (valid : fewer.HasWorkingWeekday) : more.HasWorkingWeekday := by
  obtain ⟨steps, -, -, works⟩ := fewer.exists_working_within .forward valid 0
  have moreWorks := within _ works
  unfold isWorkingDay at moreWorks
  split_ifs at moreWorks
  exact ⟨_, moreWorks⟩

theorem WorksWithin.countWorkingDays_le (within : fewer.WorksWithin more) (steps : Nat)
    (current : Int) :
    fewer.countWorkingDays steps current ≤ more.countWorkingDays steps current := by
  induction steps generalizing current with
  | zero => exact le_rfl
  | succ steps inductionHypothesis =>
      have rest := inductionHypothesis (current + 1)
      simp only [countWorkingDays]
      cases works : fewer.isWorkingDay (current + 1)
      · simp only [Bool.false_eq_true, if_false]
        split_ifs <;> omega
      · simp only [if_true, within _ works]
        omega

theorem WorksWithin.workingDaysBetween_le (within : fewer.WorksWithin more) (start endDate : Int) :
    fewer.workingDaysBetween start endDate ≤ more.workingDaysBetween start endDate :=
  within.countWorkingDays_le _ _

end

/-! ## Walks stop at the first date that completes their count -/

section

variable (calendar : WorkCalendar)

/-- A forward walk of `days ≥ 1` ends no later than any date with `days`
working days after the start. -/
theorem addWorkingDays_le_of_count {date result other : Int} {days : Nat} (daysPos : 0 < days)
    (adds : calendar.addWorkingDays date days = some result) (dateLe : date ≤ other)
    (counted : days ≤ calendar.workingDaysBetween date other) : result ≤ other := by
  obtain ⟨-, countForward, -, resultWorks⟩ := calendar.walk_forward_sound adds
  have dateLt : date < result := calendar.lt_of_workingDaysBetween_pos (countForward ▸ daysPos)
  by_contra otherLt
  have countToResult := workingDaysBetween_succ calendar (by omega : date ≤ result - 1)
  rw [sub_add_cancel, countForward, if_pos (resultWorks daysPos)] at countToResult
  have toOther := workingDaysBetween_mono calendar dateLe (by omega : other ≤ result - 1)
  omega

/-- A backward walk of `days ≥ 1` ends no earlier than any date with `days`
working days before the start. -/
theorem le_subtractWorkingDays_of_count {date result other : Int} {days : Nat}
    (daysPos : 0 < days) (subtracts : calendar.subtractWorkingDays date days = some result)
    (otherLe : other ≤ date)
    (counted : days ≤ calendar.workingDaysBetween (other - 1) (date - 1)) : other ≤ result := by
  obtain ⟨-, countBack, -, resultWorks⟩ := calendar.walk_backward_sound subtracts
  have resultLt := calendar.lt_of_workingDaysBetween_pos (countBack ▸ daysPos)
  by_contra otherLt
  have countFromResult := workingDaysBetween_pred calendar resultLt
  rw [sub_add_cancel, countBack, if_pos (resultWorks daysPos)] at countFromResult
  have split := workingDaysBetween_add calendar (by omega : result ≤ other - 1)
    (by omega : other - 1 ≤ date - 1)
  omega

/-- On a calendar with a working weekday, `next_working_day` is the first
working day after a date and `previous_working_day` the last one before it. -/
theorem nearestWorkingDays (valid : calendar.HasWorkingWeekday) (date : Int) :
    (∃ next, calendar.nextWorkingDay date = some next ∧
      calendar.IsFirstWorkingDayFrom (date + 1) next) ∧
    ∃ previous, calendar.previousWorkingDay date = some previous ∧
      calendar.IsLastWorkingDayUpTo (date - 1) previous := by
  obtain ⟨next, adds⟩ : ∃ next, calendar.addWorkingDays date 1 = some next :=
    calendar.walk_budget_returns .forward valid date 1
  obtain ⟨previous, subtracts⟩ : ∃ previous, calendar.subtractWorkingDays date 1 = some previous :=
    calendar.walk_budget_returns .backward valid date 1
  obtain ⟨-, countForward, -, nextWorks⟩ := calendar.walk_forward_sound adds
  obtain ⟨-, countBack, -, previousWorks⟩ := calendar.walk_backward_sound subtracts
  have dateLt := calendar.lt_of_workingDaysBetween_pos (countForward ▸ Nat.one_pos)
  have previousLt := calendar.lt_of_workingDaysBetween_pos (countBack ▸ Nat.one_pos)
  refine ⟨⟨next, adds, by omega, nextWorks Nat.one_pos, fun other otherFrom otherLt => ?_⟩,
    previous, subtracts, by omega, previousWorks Nat.one_pos,
    fun other previousLtOther otherLe => ?_⟩
  · by_contra otherWorks
    rw [Bool.not_eq_false] at otherWorks
    have := calendar.addWorkingDays_le_of_count Nat.one_pos adds (by omega)
      (one_le_workingDaysBetween calendar (by omega) otherWorks)
    omega
  · by_contra otherWorks
    rw [Bool.not_eq_false] at otherWorks
    have atOther := one_le_workingDaysBetween calendar (by omega : other - 1 < other) otherWorks
    have toDate := workingDaysBetween_mono calendar (by omega : other - 1 ≤ other) otherLe
    have : other ≤ previous :=
      calendar.le_subtractWorkingDays_of_count Nat.one_pos subtracts (by omega) (by omega)
    omega

/-- Day 2 is a Saturday: the next working day is the Monday after it, the
previous one the Friday before. -/
theorem nearestWorkingDays_saturday :
    WorkCalendar.new.HasWorkingWeekday ∧
      (∃ next, WorkCalendar.new.nextWorkingDay 2 = some next ∧
        WorkCalendar.new.IsFirstWorkingDayFrom (2 + 1) next) ∧
      ∃ previous, WorkCalendar.new.previousWorkingDay 2 = some previous ∧
        WorkCalendar.new.IsLastWorkingDayUpTo (2 - 1) previous :=
  ⟨⟨0, rfl⟩, nearestWorkingDays _ ⟨0, rfl⟩ 2⟩

end

/-! ## A holiday never shortens a lead time -/

section

variable {fewer more : WorkCalendar}

theorem WorksWithin.addWorkingDays_le (within : fewer.WorksWithin more)
    (valid : fewer.HasWorkingWeekday) (date : Int) (days : Nat) :
    ∃ early late, more.addWorkingDays date days = some early ∧
      fewer.addWorkingDays date days = some late ∧ early ≤ late := by
  obtain ⟨late, lateAdds⟩ := fewer.walk_budget_returns .forward valid date days
  obtain ⟨early, earlyAdds⟩ :=
    more.walk_budget_returns .forward (within.hasWorkingWeekday valid) date days
  refine ⟨early, late, earlyAdds, lateAdds, ?_⟩
  rcases Nat.eq_zero_or_pos days with rfl | daysPos
  · simp only [walk_zero_remaining, Option.some.injEq] at earlyAdds lateAdds
    omega
  · obtain ⟨dateLe, countLate, -, -⟩ := fewer.walk_forward_sound lateAdds
    exact more.addWorkingDays_le_of_count daysPos earlyAdds dateLe
      (countLate ▸ within.workingDaysBetween_le date late)

theorem WorksWithin.subtractWorkingDays_le (within : fewer.WorksWithin more)
    (valid : fewer.HasWorkingWeekday) (date : Int) (days : Nat) :
    ∃ early late, fewer.subtractWorkingDays date days = some early ∧
      more.subtractWorkingDays date days = some late ∧ early ≤ late := by
  obtain ⟨early, earlySubtracts⟩ := fewer.walk_budget_returns .backward valid date days
  obtain ⟨late, lateSubtracts⟩ :=
    more.walk_budget_returns .backward (within.hasWorkingWeekday valid) date days
  refine ⟨early, late, earlySubtracts, lateSubtracts, ?_⟩
  rcases Nat.eq_zero_or_pos days with rfl | daysPos
  · simp only [walk_zero_remaining, Option.some.injEq] at earlySubtracts lateSubtracts
    omega
  · obtain ⟨earlyLe, countEarly, -, -⟩ := fewer.walk_backward_sound earlySubtracts
    exact more.le_subtractWorkingDays_of_count daysPos lateSubtracts earlyLe
      (countEarly ▸ within.workingDaysBetween_le _ _)

/-- A calendar whose working days are among another's, such as one with more
holidays, counts no more working days over any interval, adds working days to
a date no earlier and subtracts them no later. -/
theorem WorksWithin.leadTimes (within : fewer.WorksWithin more)
    (valid : fewer.HasWorkingWeekday) (date : Int) (days : Nat) :
    (∀ start endDate,
      fewer.workingDaysBetween start endDate ≤ more.workingDaysBetween start endDate) ∧
    (∃ early late, more.addWorkingDays date days = some early ∧
      fewer.addWorkingDays date days = some late ∧ early ≤ late) ∧
    ∃ early late, fewer.subtractWorkingDays date days = some early ∧
      more.subtractWorkingDays date days = some late ∧ early ≤ late :=
  ⟨within.workingDaysBetween_le, within.addWorkingDays_le valid date days,
    within.subtractWorkingDays_le valid date days⟩

/-- Monday to Friday with day 4, a Monday, made a holiday, against the same
calendar without it, adding and subtracting three working days from day 1. -/
theorem leadTimes_mondayHoliday :
    (WorkCalendar.new.addHolidays [4]).WorksWithin WorkCalendar.new ∧
      (WorkCalendar.new.addHolidays [4]).HasWorkingWeekday ∧
      (∀ start endDate, (WorkCalendar.new.addHolidays [4]).workingDaysBetween start endDate ≤
        WorkCalendar.new.workingDaysBetween start endDate) ∧
      (∃ early late, WorkCalendar.new.addWorkingDays 1 3 = some early ∧
        (WorkCalendar.new.addHolidays [4]).addWorkingDays 1 3 = some late ∧ early ≤ late) ∧
      ∃ early late, (WorkCalendar.new.addHolidays [4]).subtractWorkingDays 1 3 = some early ∧
        WorkCalendar.new.subtractWorkingDays 1 3 = some late ∧ early ≤ late :=
  have within := worksWithin_addHolidays WorkCalendar.new [4]
  have valid : (WorkCalendar.new.addHolidays [4]).HasWorkingWeekday := ⟨0, by decide⟩
  ⟨within, valid, WorksWithin.leadTimes within valid 1 3⟩

end

end WorkCalendar

end NexusMrp
