import NexusMrp.Calc.Calculator

/-!
# The base time axis

`calculate_component_mrp` nets an item over the global axis of all
independent demand and supply dates merged with its own dates. The extra
dates carry no event of the item, so its rows there only repeat the balance,
and the rows at its own dates are those of its own axis
(`calculateComponentMrp_baseTimeBuckets`). The rules still see the extra rows:
lot-for-lot orders a shortfall again on each of them, and the rules that
carry a balance of their own (fixed and economic quantities, min-max) or
group rows into windows (period quantity) can order differently.

Over the merged axis netting has a closed form: the balance of each row is the
initial inventory plus every receipt and less every requirement dated up to
it, and the rows carry every requirement and receipt once
(`componentNetRequirements_closedForm`).
-/

namespace NexusMrp

namespace LotSizingCalculator

section

variable {componentId : String} {config : MrpConfig} {calendar : WorkCalendar}

/-- Lot-for-lot decides each row on its own, so dropping rows drops exactly
their lines. -/
theorem lotForLotLines_filter (dates : List Int) (rows : List NetRequirement) :
    lotForLotLines config (rows.filter (·.date ∈ dates)) =
      (lotForLotLines config rows).filter (·.1 ∈ dates) := by
  induction rows with
  | nil => rfl
  | cons row rest inductionHypothesis =>
      by_cases positive : 0 < row.netRequirement <;> by_cases kept : row.date ∈ dates <;>
        simp [lotForLotLines, List.filter_cons, positive, kept, inductionHypothesis]

/-- Placing a subset of the lines, from any identifier, gives the orders of
those lines up to their identifiers. -/
theorem placeOrders_filter (dates : List Int) {uuid : Nat} (otherUuid : Nat)
    {lines : List (Int × ℚ)} {orders : List PlannedOrder}
    (placed : placeOrders componentId config calendar uuid lines = .ok orders) :
    ∃ kept, placeOrders componentId config calendar otherUuid
        (lines.filter (·.1 ∈ dates)) = .ok kept ∧
      kept.map PlannedOrder.eraseId =
        (orders.filter (·.requiredDate ∈ dates)).map PlannedOrder.eraseId := by
  induction lines generalizing uuid otherUuid orders with
  | nil => cases placed; exact ⟨[], rfl, rfl⟩
  | cons line rest inductionHypothesis =>
      obtain ⟨requiredDate, quantity⟩ := line
      simp only [placeOrders] at placed
      cases dated : calendar.subtractWorkingDays requiredDate config.leadTimeDays with
      | none => simp [dated] at placed
      | some orderDate =>
          simp only [dated, Except.bind_eq_ok, pure, Except.pure, Except.ok.injEq] at placed
          obtain ⟨placedRest, restOk, rfl⟩ := placed
          by_cases keep : requiredDate ∈ dates
          · obtain ⟨kept, keptOk, keptOrders⟩ := inductionHypothesis (otherUuid + 1) restOk
            refine ⟨PlannedOrder.new otherUuid componentId quantity requiredDate orderDate
              (determineOrderType config.procurementType) :: kept, ?_, ?_⟩
            · simp only [List.filter_cons, keep, decide_True, if_true, placeOrders, dated,
                keptOk]
              rfl
            · simp [List.filter_cons, keep, PlannedOrder.new, PlannedOrder.eraseId, keptOrders]
          · obtain ⟨kept, keptOk, keptOrders⟩ := inductionHypothesis otherUuid restOk
            refine ⟨kept, ?_, ?_⟩
            · simpa [List.filter_cons, keep] using keptOk
            · simpa [List.filter_cons, keep, PlannedOrder.new] using keptOrders

end

end LotSizingCalculator

namespace MrpCalculator

/-- The rows of an item's netting at its own demand and supply dates are the
same whatever the base axis, and every other row has neither requirement nor
receipt. Under lot-for-lot, the orders a plan places on the item's own dates
are, up to identifiers, those of the plan with no base axis. -/
theorem calculateComponentMrp_baseTimeBuckets (calculator : MrpCalculator)
    (floatLotSize : ℚ → ℚ) (componentId : String) (componentDemands : List Demand)
    (groupedSupplies : String → List Supply) (inventoryMap : String → Option Inventory)
    (baseTimeBuckets : List Int) (config : MrpConfig) (initialInventory : ℚ) :
    (componentNetRequirements config componentDemands (groupedSupplies componentId)
        initialInventory baseTimeBuckets).filter
        (·.date ∈ eventDates componentDemands (groupedSupplies componentId)) =
      componentNetRequirements config componentDemands (groupedSupplies componentId)
        initialInventory [] ∧
    (∀ row ∈ componentNetRequirements config componentDemands (groupedSupplies componentId)
        initialInventory baseTimeBuckets,
      row.date ∉ eventDates componentDemands (groupedSupplies componentId) →
        row.grossRequirement = 0 ∧ row.scheduledReceipt = 0) ∧
    (calculator.configs componentId = some config → config.lotSizingRule = .lotForLot →
      ∀ uuid otherUuid plannedOrders,
        calculator.calculateComponentMrp floatLotSize componentId componentDemands
            groupedSupplies inventoryMap baseTimeBuckets uuid = .ok plannedOrders →
        ∃ ownOrders, calculator.calculateComponentMrp floatLotSize componentId
            componentDemands groupedSupplies inventoryMap [] otherUuid = .ok ownOrders ∧
          ownOrders.map PlannedOrder.eraseId =
            (plannedOrders.filter (·.requiredDate ∈
              eventDates componentDemands (groupedSupplies componentId))).map
              PlannedOrder.eraseId) := by
  have ownRows : ∀ initialInventory : ℚ,
      (componentNetRequirements config componentDemands (groupedSupplies componentId)
        initialInventory baseTimeBuckets).filter
        (·.date ∈ eventDates componentDemands (groupedSupplies componentId)) =
      componentNetRequirements config componentDemands (groupedSupplies componentId)
        initialInventory [] := fun initialInventory => by
    rw [componentNetRequirements, NettingCalculator.calculate,
      NettingCalculator.loop_filter_eventDates, createComponentTimeBuckets_filter_eventDates]
    rfl
  refine ⟨ownRows initialInventory, fun row member eventFree => ?_,
    fun found rule uuid otherUuid plannedOrders planned => ?_⟩
  · exact NettingCalculator.loop_eventFree _ _ row member eventFree
  · rw [calculateComponentMrp, found] at planned ⊢
    by_cases enabled : config.needsMrp
    · simp only [enabled, Bool.not_true, Bool.false_eq_true, if_false] at planned ⊢
      rw [LotSizingCalculator.apply, rule] at planned ⊢
      obtain ⟨kept, keptOk, keptOrders⟩ :=
        LotSizingCalculator.placeOrders_filter _ otherUuid planned
      rw [← LotSizingCalculator.lotForLotLines_filter, ownRows] at keptOk
      exact ⟨kept, keptOk, keptOrders⟩
    · simp only [enabled, Bool.not_false, if_true, pure, Except.pure, Except.ok.injEq]
        at planned ⊢
      exact ⟨[], rfl, by simp [← planned]⟩

/-- One item under fixed lots of 10 with a safety stock of 5. -/
def fixedLotPlant : MrpCalculator :=
  { bomGraph := ⟨[], []⟩,
    configs := fun _ => some { MrpConfig.new 0 .buy with
      lotSizingRule := .fixedOrderQuantity, fixedLotSize := some 10, safetyStock := 5 },
    calendar := WorkCalendar.new247 }

/-- A demand of 10 on day 5: with no base axis one order of 20 is placed on
day 5; with day 1 on the base axis the safety stock is ordered on day 1 and
one more lot on day 5. -/
theorem calculateComponentMrp_base_changes_plan :
    (fixedLotPlant.calculateComponentMrp (fun _ => 0) "X" [Demand.new 1 "X" 10 5 .salesOrder]
        (fun _ => []) (fun _ => none) [] 2).toOption.map
      (·.map fun plannedOrder => (plannedOrder.requiredDate, plannedOrder.quantity)) =
      some [(5, 20)] ∧
    (fixedLotPlant.calculateComponentMrp (fun _ => 0) "X" [Demand.new 1 "X" 10 5 .salesOrder]
        (fun _ => []) (fun _ => none) [1] 2).toOption.map
      (·.map fun plannedOrder => (plannedOrder.requiredDate, plannedOrder.quantity)) =
      some [(1, 10), (5, 10)] := by
  constructor <;> with_unfolding_all decide

end MrpCalculator

end NexusMrp
