import NexusMrp.Calc.Calculator

/-!
# What the rules order

Netting carries the raw projected balance and never the planned receipts, so
a shortfall no supply covers stays in the net requirement of every later row.
Lot-for-lot orders each row's net requirement as it stands, so it orders such
a shortfall once per row: in total, the sum of the net requirements and not
the largest of them (`apply_lotForLot_total`, and for an item's plan
`calculateComponentMrp_lotForLot_total`).

`fixed_order_quantity` and `economic_order_quantity` count the lots of a
shortage through its decimal string parsed as a `u32`, and order a single lot
when the parse fails (`batchesNeeded`).
-/

namespace NexusMrp

namespace LotSizingCalculator

/-! ## Lot-for-lot -/

section

variable {config : MrpConfig}

/-- Under a config without a minimum, a multiple or a maximum, the lines of
lot-for-lot total the net requirements of rows that have none negative. -/
theorem lotForLotLines_total (noMinimum : config.minimumOrderQty = none)
    (noMultiple : config.orderMultiple = none) (noMaximum : config.maximumOrderQty = none)
    {rows : List NetRequirement} (nonneg : ∀ row ∈ rows, 0 ≤ row.netRequirement) :
    ((lotForLotLines config rows).map (·.2)).sum = (rows.map (·.netRequirement)).sum := by
  induction rows with
  | nil => rfl
  | cons row rest inductionHypothesis =>
      have restTotal := inductionHypothesis fun other member =>
        nonneg other (List.mem_cons_of_mem _ member)
      by_cases positive : 0 < row.netRequirement
      · simp [lotForLotLines, positive, restTotal,
          MrpConfig.adjustOrderQuantity_of_none noMinimum noMultiple noMaximum]
      · have noShortfall : row.netRequirement = 0 :=
          le_antisymm (not_lt.mp positive) (nonneg row (List.mem_cons_self _ _))
        simp [lotForLotLines, positive, restTotal, noShortfall]

/-- Lot-for-lot under such a config orders, over a netting series, the sum of
its net requirements: a shortfall carried over several rows is ordered once
per row. -/
theorem apply_lotForLot_total {floatLotSize : ℚ → ℚ} {componentId : String}
    {demands : List Demand} {supplies : List Supply} {initialInventory safetyStock : ℚ}
    {timeBuckets : List Int} {allowNegativeInventory : Bool} {calendar : WorkCalendar}
    {uuid : Nat} {orders : List PlannedOrder} (rule : config.lotSizingRule = .lotForLot)
    (noMinimum : config.minimumOrderQty = none) (noMultiple : config.orderMultiple = none)
    (noMaximum : config.maximumOrderQty = none)
    (placed : apply floatLotSize componentId
      (NettingCalculator.calculate demands supplies initialInventory safetyStock timeBuckets
        allowNegativeInventory) config calendar uuid = .ok orders) :
    (orders.map (·.quantity)).sum =
      ((NettingCalculator.calculate demands supplies initialInventory safetyStock timeBuckets
        allowNegativeInventory).map (·.netRequirement)).sum := by
  rw [apply, rule] at placed
  obtain ⟨lines, -, -⟩ := placeOrders_ok placed
  have quantities : orders.map (·.quantity) =
      (lotForLotLines config (NettingCalculator.calculate demands supplies initialInventory
        safetyStock timeBuckets allowNegativeInventory)).map (·.2) := by
    rw [← lines, List.map_map]
    rfl
  rw [quantities]
  exact lotForLotLines_total noMinimum noMultiple noMaximum
    (NettingCalculator.loop_netRequirement_nonneg _ _)

/-- Demands of 75 and 45 on consecutive days with nothing on hand: the second
row carries the first shortfall, and lot-for-lot orders 75 and then 120. -/
theorem apply_lotForLot_carried_shortfall :
    (NettingCalculator.calculate [Demand.new 1 "X" 75 1 .salesOrder,
        Demand.new 2 "X" 45 2 .salesOrder] [] 0 0 [1, 2] false).map (·.netRequirement) =
      [75, 120] ∧
    (apply (fun _ => 0) "X" (NettingCalculator.calculate [Demand.new 1 "X" 75 1 .salesOrder,
        Demand.new 2 "X" 45 2 .salesOrder] [] 0 0 [1, 2] false) (MrpConfig.new 0 .buy)
        WorkCalendar.new247 3).toOption.map (·.map (·.quantity)) = some [75, 120] := by
  constructor <;> with_unfolding_all decide

end

/-! ## Counting lots -/

/-- Past a `u32`, the parse fails and a single lot is ordered. -/
theorem batchesNeeded_of_overflow {ratio : ℚ} (overflow : 4294967295 < ⌈ratio⌉) :
    batchesNeeded ratio = 1 := by
  rw [batchesNeeded, if_neg (by omega)]

/-- A shortage of 2^32 units in lots of one: the lot count does not parse as a
`u32`, one lot is ordered, and the row stays 4294967295 short. -/
theorem apply_fixedOrderQuantity_overflow :
    (apply (fun _ => 0) "X"
        (NettingCalculator.calculate [Demand.new 1 "X" 4294967296 1 .salesOrder] [] 0 0 [1]
          false)
        { MrpConfig.new 0 .buy with lotSizingRule := .fixedOrderQuantity, fixedLotSize := some 1 }
        WorkCalendar.new247 2).toOption.map (·.map (·.quantity)) = some [1] := by
  with_unfolding_all decide

end LotSizingCalculator

namespace MrpCalculator

/-- One item, lot-for-lot with no lead time, on a calendar where every day
works. -/
def singleItemPlant : MrpCalculator :=
  { bomGraph := ⟨[], []⟩, configs := fun _ => some (MrpConfig.new 0 .buy),
    calendar := WorkCalendar.new247 }

/-- An item planned lot-for-lot under a config without a minimum, a multiple
or a maximum is ordered, in total, the sum of the net requirements over its
merged time axis. -/
theorem calculateComponentMrp_lotForLot_total {calculator : MrpCalculator}
    {floatLotSize : ℚ → ℚ} {componentId : String} {componentDemands : List Demand}
    {groupedSupplies : String → List Supply} {inventoryMap : String → Option Inventory}
    {timeBuckets : List Int} {uuid : Nat} {plannedOrders : List PlannedOrder}
    {config : MrpConfig} (found : calculator.configs componentId = some config)
    (enabled : config.needsMrp = true) (rule : config.lotSizingRule = .lotForLot)
    (noMinimum : config.minimumOrderQty = none) (noMultiple : config.orderMultiple = none)
    (noMaximum : config.maximumOrderQty = none)
    (planned : calculator.calculateComponentMrp floatLotSize componentId componentDemands
      groupedSupplies inventoryMap timeBuckets uuid = .ok plannedOrders) :
    (plannedOrders.map (·.quantity)).sum =
      ((componentNetRequirements config componentDemands (groupedSupplies componentId)
        (((inventoryMap componentId).map (·.availableQty)).getD 0) timeBuckets).map
          (·.netRequirement)).sum := by
  rw [calculateComponentMrp, found] at planned
  simp only [enabled, Bool.not_true, Bool.false_eq_true, if_false] at planned
  exact LotSizingCalculator.apply_lotForLot_total rule noMinimum noMultiple noMaximum planned

/-- Demands of 10 and 5 on consecutive days net to 10 and 15, the first
shortfall carried into the second row, and lot-for-lot orders both. -/
theorem calculateComponentMrp_lotForLot_total_twoDays :
    singleItemPlant.configs "X" = some (MrpConfig.new 0 .buy) ∧
      (MrpConfig.new 0 .buy).needsMrp = true ∧
      (MrpConfig.new 0 .buy).lotSizingRule = .lotForLot ∧
      (MrpConfig.new 0 .buy).minimumOrderQty = none ∧
      (MrpConfig.new 0 .buy).orderMultiple = none ∧
      (MrpConfig.new 0 .buy).maximumOrderQty = none ∧
      singleItemPlant.calculateComponentMrp (fun _ => 0) "X"
          [Demand.new 1 "X" 10 1 .salesOrder, Demand.new 2 "X" 5 2 .salesOrder] (fun _ => [])
          (fun _ => none) [1, 2] 3 =
        .ok [PlannedOrder.new 3 "X" 10 1 1 .purchase, PlannedOrder.new 4 "X" 15 2 2 .purchase] ∧
      ([PlannedOrder.new 3 "X" 10 1 1 .purchase,
          PlannedOrder.new 4 "X" 15 2 2 .purchase].map (·.quantity)).sum =
        ((componentNetRequirements (MrpConfig.new 0 .buy)
          [Demand.new 1 "X" 10 1 .salesOrder, Demand.new 2 "X" 5 2 .salesOrder] []
          (((none : Option Inventory).map (·.availableQty)).getD 0) [1, 2]).map
            (·.netRequirement)).sum :=
  have planned : singleItemPlant.calculateComponentMrp (fun _ => 0) "X"
      [Demand.new 1 "X" 10 1 .salesOrder, Demand.new 2 "X" 5 2 .salesOrder] (fun _ => [])
      (fun _ => none) [1, 2] 3 =
        .ok [PlannedOrder.new 3 "X" 10 1 1 .purchase,
          PlannedOrder.new 4 "X" 15 2 2 .purchase] := by
    with_unfolding_all rfl
  have found : singleItemPlant.configs "X" = some (MrpConfig.new 0 .buy) := rfl
  ⟨found, rfl, rfl, rfl, rfl, rfl, planned,
    calculateComponentMrp_lotForLot_total found rfl rfl rfl rfl rfl planned⟩

/-- Demands of 10 and 5 for one item on consecutive days: the item is planned
25 in total, not the 15 it needs. -/
theorem calculate_lotForLot_two_dates :
    (singleItemPlant.calculate (fun _ => 0) .insertion
        [Demand.new 1 "X" 10 1 .salesOrder, Demand.new 2 "X" 5 2 .salesOrder] [] []).toOption.map
      (·.plannedOrders.map (·.quantity)) = some [10, 15] := by
  with_unfolding_all decide

end MrpCalculator

end NexusMrp
