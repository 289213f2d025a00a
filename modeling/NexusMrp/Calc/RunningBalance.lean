import NexusMrp.Calc.Calculator

/-!
# The running balance of the rules

`fixed_order_quantity`, `economic_order_quantity` and `min_max` keep a running
balance of their own, from zero: each row takes off its gross requirement,
adds its scheduled receipt and, when the balance is short, the quantity
ordered. They read nothing else of a row but its date. Netting's balance
starts from the initial inventory, so at every row the rule's balance is
netting's projected balance less the initial inventory, plus what the rule
ordered on earlier rows, and the lines of these rules over a netting series
are the same for every initial inventory (`fixedLotLines_calculate`,
`minMaxLines_calculate`): stock on hand covers nothing, and an item's plan
under these rules is the same for every inventory record
(`calculateComponentMrp_ignoresStock`).
-/

namespace NexusMrp

namespace LotSizingCalculator

/-- What the balance-keeping rules read of a row. -/
def rowEvents (row : NetRequirement) : Int × ℚ × ℚ :=
  (row.date, row.grossRequirement, row.scheduledReceipt)

section

variable {config : MrpConfig}

theorem fixedLotLines_congr {lotSize : ℚ} {rows otherRows : List NetRequirement}
    (same : rows.map rowEvents = otherRows.map rowEvents) (remainingInventory : ℚ) :
    fixedLotLines config lotSize remainingInventory rows =
      fixedLotLines config lotSize remainingInventory otherRows := by
  induction rows generalizing otherRows remainingInventory with
  | nil => cases otherRows <;> simp_all
  | cons row rest inductionHypothesis =>
      cases otherRows with
      | nil => simp at same
      | cons other otherRest =>
          simp only [List.map_cons, List.cons.injEq, rowEvents, Prod.mk.injEq] at same
          obtain ⟨⟨sameDate, sameGross, sameReceipt⟩, sameRest⟩ := same
          simp only [fixedLotLines, sameDate, sameGross, sameReceipt,
            inductionHypothesis sameRest]

theorem minMaxLines_congr {minLevel maxLevel : ℚ} {rows otherRows : List NetRequirement}
    (same : rows.map rowEvents = otherRows.map rowEvents) (currentInventory : ℚ) :
    minMaxLines config minLevel maxLevel currentInventory rows =
      minMaxLines config minLevel maxLevel currentInventory otherRows := by
  induction rows generalizing otherRows currentInventory with
  | nil => cases otherRows <;> simp_all
  | cons row rest inductionHypothesis =>
      cases otherRows with
      | nil => simp at same
      | cons other otherRest =>
          simp only [List.map_cons, List.cons.injEq, rowEvents, Prod.mk.injEq] at same
          obtain ⟨⟨sameDate, sameGross, sameReceipt⟩, sameRest⟩ := same
          simp only [minMaxLines, sameDate, sameGross, sameReceipt,
            inductionHypothesis sameRest]

variable {demands : List Demand} {supplies : List Supply} {safetyStock : ℚ}
  {timeBuckets : List Int} {allowNegativeInventory : Bool}

/-- Netting rows carry the same events whatever balance they start from. -/
theorem rowEvents_loop (first second : ℚ) (dates : List Int) :
    (NettingCalculator.loop demands supplies safetyStock allowNegativeInventory first
        dates).map rowEvents =
      (NettingCalculator.loop demands supplies safetyStock allowNegativeInventory second
        dates).map rowEvents := by
  induction dates generalizing first second with
  | nil => rfl
  | cons date rest inductionHypothesis =>
      rw [NettingCalculator.loop_cons, NettingCalculator.loop_cons, List.map_cons,
        List.map_cons, inductionHypothesis _ (NettingCalculator.netRow demands supplies
          safetyStock allowNegativeInventory second date).projectedOnHand]
      rfl

/-- The lines of fixed and economic order quantity over a netting series do
not depend on the initial inventory. -/
theorem fixedLotLines_calculate (lotSize remainingInventory : ℚ)
    (initialInventory otherInventory : ℚ) :
    fixedLotLines config lotSize remainingInventory
        (NettingCalculator.calculate demands supplies initialInventory safetyStock timeBuckets
          allowNegativeInventory) =
      fixedLotLines config lotSize remainingInventory
        (NettingCalculator.calculate demands supplies otherInventory safetyStock timeBuckets
          allowNegativeInventory) :=
  fixedLotLines_congr (rowEvents_loop _ _ _) _

/-- The lines of min-max over a netting series do not depend on the initial
inventory. -/
theorem minMaxLines_calculate (minLevel maxLevel currentInventory : ℚ)
    (initialInventory otherInventory : ℚ) :
    minMaxLines config minLevel maxLevel currentInventory
        (NettingCalculator.calculate demands supplies initialInventory safetyStock timeBuckets
          allowNegativeInventory) =
      minMaxLines config minLevel maxLevel currentInventory
        (NettingCalculator.calculate demands supplies otherInventory safetyStock timeBuckets
          allowNegativeInventory) :=
  minMaxLines_congr (rowEvents_loop _ _ _) _

/-- Under fixed order quantity, min-max, and economic order quantity with a
configured lot, lot sizing over an item's netting series does not depend on
its initial inventory. -/
theorem apply_componentNetRequirements_inventory {floatLotSize : ℚ → ℚ} {componentId : String}
    {calendar : WorkCalendar} {uuid : Nat} {componentSupplies : List Supply}
    (balanceRule : config.lotSizingRule = .fixedOrderQuantity ∨
      config.lotSizingRule = .minMax ∨
      config.lotSizingRule = .economicOrderQuantity ∧ config.fixedLotSize ≠ none)
    (initialInventory otherInventory : ℚ) :
    apply floatLotSize componentId (MrpCalculator.componentNetRequirements config demands
        componentSupplies initialInventory timeBuckets) config calendar uuid =
      apply floatLotSize componentId (MrpCalculator.componentNetRequirements config demands
        componentSupplies otherInventory timeBuckets) config calendar uuid := by
  simp only [MrpCalculator.componentNetRequirements]
  rcases balanceRule with rule | rule | ⟨rule, lot⟩
  · simp only [apply, rule, fixedOrderQuantity,
      fixedLotLines_calculate _ _ initialInventory otherInventory]
  · simp only [apply, rule, minMax, minMaxLines_calculate _ _ _ initialInventory otherInventory]
  · obtain ⟨lotSize, isLot⟩ := Option.ne_none_iff_exists'.mp lot
    simp only [apply, rule, economicOrderQuantity, economicLotSize, isLot,
      fixedLotLines_calculate _ _ initialInventory otherInventory]

end

end LotSizingCalculator

namespace MrpCalculator

/-- One item ordered in fixed lots of 10, with no lead time, on a calendar
where every day works. -/
def fixedLotStockPlant : MrpCalculator :=
  { bomGraph := ⟨[], []⟩,
    configs := fun _ => some { MrpConfig.new 0 .buy with
      lotSizingRule := .fixedOrderQuantity, fixedLotSize := some 10 },
    calendar := WorkCalendar.new247 }

/-- 100 on hand against a demand of 50: netting finds nothing to cover, yet
fixed lots of 10 start their balance from zero and order 50. -/
theorem calculate_fixedOrderQuantity_ignores_onHand :
    (NettingCalculator.calculate [Demand.new 1 "X" 50 1 .salesOrder] [] 100 0 [1]
        false).map (·.netRequirement) = [0] ∧
      (fixedLotStockPlant.calculate (fun _ => 0) .insertion [Demand.new 1 "X" 50 1 .salesOrder]
          [] [Inventory.new "X" 100 0]).toOption.map
        (·.plannedOrders.map (·.quantity)) = some [50] := by
  constructor <;> with_unfolding_all decide

/-- Under fixed order quantity, min-max, and economic order quantity with a
configured lot, an item's plan does not depend on its available stock:
whenever it returns for two inventory records, it returns the same orders. -/
theorem calculateComponentMrp_ignoresStock {calculator : MrpCalculator} {floatLotSize : ℚ → ℚ}
    {componentId : String} {componentDemands : List Demand}
    {groupedSupplies : String → List Supply} {inventoryMap otherMap : String → Option Inventory}
    {timeBuckets : List Int} {uuid : Nat} {config : MrpConfig}
    {orders otherOrders : List PlannedOrder}
    (configured : calculator.configs componentId = some config)
    (balanceRule : config.lotSizingRule = .fixedOrderQuantity ∨
      config.lotSizingRule = .minMax ∨
      config.lotSizingRule = .economicOrderQuantity ∧ config.fixedLotSize ≠ none)
    (planned : calculator.calculateComponentMrp floatLotSize componentId componentDemands
      groupedSupplies inventoryMap timeBuckets uuid = .ok orders)
    (otherPlanned : calculator.calculateComponentMrp floatLotSize componentId componentDemands
      groupedSupplies otherMap timeBuckets uuid = .ok otherOrders) :
    orders = otherOrders := by
  rw [calculateComponentMrp, configured] at planned otherPlanned
  simp only at planned otherPlanned
  split_ifs at planned otherPlanned
  · cases planned
    cases otherPlanned
    rfl
  · rw [LotSizingCalculator.apply_componentNetRequirements_inventory balanceRule _
      (((otherMap componentId).map (·.availableQty)).getD 0), otherPlanned] at planned
    exact (Except.ok.inj planned).symm

/-- Fixed lots of 10 against a demand of 50: with 100 on hand or with no
inventory record, the plan is the same five lots. -/
theorem calculateComponentMrp_ignoresStock_fixedLots :
    fixedLotStockPlant.configs "X" = some { MrpConfig.new 0 .buy with
      lotSizingRule := .fixedOrderQuantity, fixedLotSize := some 10 } ∧
      (LotSizingRule.fixedOrderQuantity = .fixedOrderQuantity ∨
        LotSizingRule.fixedOrderQuantity = .minMax ∨
        LotSizingRule.fixedOrderQuantity = .economicOrderQuantity ∧ some (10 : ℚ) ≠ none) ∧
      fixedLotStockPlant.calculateComponentMrp (fun _ => 0) "X"
          [Demand.new 1 "X" 50 1 .salesOrder] (fun _ => [])
          (fun _ => some (Inventory.new "X" 100 0)) [1] 2 =
        .ok [PlannedOrder.new 2 "X" 50 1 1 .purchase] ∧
      fixedLotStockPlant.calculateComponentMrp (fun _ => 0) "X"
          [Demand.new 1 "X" 50 1 .salesOrder] (fun _ => []) (fun _ => none) [1] 2 =
        .ok [PlannedOrder.new 2 "X" 50 1 1 .purchase] ∧
      [PlannedOrder.new 2 "X" 50 1 1 .purchase] = [PlannedOrder.new 2 "X" 50 1 1 .purchase] :=
  have configured : fixedLotStockPlant.configs "X" = some { MrpConfig.new 0 .buy with
      lotSizingRule := .fixedOrderQuantity, fixedLotSize := some 10 } := rfl
  have balanceRule : LotSizingRule.fixedOrderQuantity = .fixedOrderQuantity ∨
      LotSizingRule.fixedOrderQuantity = .minMax ∨
      LotSizingRule.fixedOrderQuantity = .economicOrderQuantity ∧ some (10 : ℚ) ≠ none :=
    .inl rfl
  have planned : fixedLotStockPlant.calculateComponentMrp (fun _ => 0) "X"
      [Demand.new 1 "X" 50 1 .salesOrder] (fun _ => [])
      (fun _ => some (Inventory.new "X" 100 0)) [1] 2 =
        .ok [PlannedOrder.new 2 "X" 50 1 1 .purchase] := by
    with_unfolding_all rfl
  have otherPlanned : fixedLotStockPlant.calculateComponentMrp (fun _ => 0) "X"
      [Demand.new 1 "X" 50 1 .salesOrder] (fun _ => []) (fun _ => none) [1] 2 =
        .ok [PlannedOrder.new 2 "X" 50 1 1 .purchase] := by
    with_unfolding_all rfl
  ⟨configured, balanceRule, planned, otherPlanned,
    calculateComponentMrp_ignoresStock configured balanceRule planned otherPlanned⟩

end MrpCalculator

end NexusMrp
