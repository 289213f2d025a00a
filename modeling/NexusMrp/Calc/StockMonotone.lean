import NexusMrp.Calc.Consolidation
import NexusMrp.Calc.RunningBalance

/-!
# More stock never orders more

More available stock raises every projected balance of the netting loop by the
same amount and so raises no net requirement (`loop_needsNoMore`); a lower
netting target does the same (`loop_needsNoMore_target`). Lot-for-lot and
period order quantity then order no more often and no more in total, and fixed
order quantity and min-max do not change at all (`calculateComponentMrp_moreStock`,
`calculateComponentMrp_lowerTarget`). Economic order quantity is left out: its
lot follows the total net requirement, and a smaller lot can mean more orders.
-/

namespace NexusMrp

/-- A netting row beside the row of the same bucket netted from less stock:
the same date, requirement and receipt, and no larger net requirement. -/
structure NeedsNoMore (row other : NetRequirement) : Prop where
  sameEvents : LotSizingCalculator.rowEvents row = LotSizingCalculator.rowEvents other
  netLe : row.netRequirement ≤ other.netRequirement

theorem NeedsNoMore.sameDate {row other : NetRequirement} (related : NeedsNoMore row other) :
    row.date = other.date :=
  congrArg Prod.fst related.sameEvents

namespace NettingCalculator

/-- A higher projected balance has no larger shortfall. -/
theorem netRequirementOf_anti (safetyStock : ℚ) (allowNegativeInventory : Bool)
    {lower higher : ℚ} (le : lower ≤ higher) :
    netRequirementOf safetyStock allowNegativeInventory higher ≤
      netRequirementOf safetyStock allowNegativeInventory lower := by
  rw [netRequirementOf_eq_max, netRequirementOf_eq_max]
  exact max_le_max le_rfl (sub_le_sub_left le _)

/-- Netting from more stock keeps every row's date, requirement and receipt and
gives no larger net requirement. -/
theorem loop_needsNoMore (demands : List Demand) (supplies : List Supply) (safetyStock : ℚ)
    (allowNegativeInventory : Bool) {less more : ℚ} (stocked : less ≤ more)
    (dates : List Int) :
    List.Forall₂ NeedsNoMore
      (loop demands supplies safetyStock allowNegativeInventory more dates)
      (loop demands supplies safetyStock allowNegativeInventory less dates) := by
  induction dates generalizing less more with
  | nil => exact .nil
  | cons date rest inductionHypothesis =>
      have balanceLe :
          (netRow demands supplies safetyStock allowNegativeInventory less date).projectedOnHand ≤
            (netRow demands supplies safetyStock allowNegativeInventory more
              date).projectedOnHand :=
        sub_le_sub_right (add_le_add_right stocked _) _
      exact .cons ⟨rfl, netRequirementOf_anti _ _ balanceLe⟩
        (inductionHypothesis balanceLe)

/-- Netting against a lower target keeps every row's date, requirement,
receipt and balance and gives no larger net requirement. -/
theorem loop_needsNoMore_target (demands : List Demand) (supplies : List Supply)
    {safetyStock lowerStock : ℚ} {allowNegativeInventory lowerAllowed : Bool}
    (lowered : nettingTarget lowerStock lowerAllowed ≤
      nettingTarget safetyStock allowNegativeInventory)
    (currentInventory : ℚ) (dates : List Int) :
    List.Forall₂ NeedsNoMore
      (loop demands supplies lowerStock lowerAllowed currentInventory dates)
      (loop demands supplies safetyStock allowNegativeInventory currentInventory dates) := by
  induction dates generalizing currentInventory with
  | nil => exact .nil
  | cons date rest inductionHypothesis =>
      refine .cons ⟨rfl, ?_⟩ (inductionHypothesis _)
      simp only [netRow, netRequirementOf_eq_max]
      exact max_le_max le_rfl (sub_le_sub_right lowered _)

end NettingCalculator

namespace LotSizingCalculator

/-- Order lines chosen one per item, where an item gets no line or one no
larger than its partner's, and no line is negative: the items get no more
lines than their partners and no more in total. -/
theorem filterMap_le_of_forall₂ {α : Type} {related : α → α → Prop}
    {line : α → Option (Int × ℚ)}
    (lineLe : ∀ {item other}, related item other → ∀ ordered, line item = some ordered →
      ∃ otherOrdered, line other = some otherOrdered ∧ ordered.2 ≤ otherOrdered.2)
    (lineNonneg : ∀ item ordered, line item = some ordered → 0 ≤ ordered.2)
    {items others : List α} (pairs : List.Forall₂ related items others) :
    (items.filterMap line).length ≤ (others.filterMap line).length ∧
      ((items.filterMap line).map (·.2)).sum ≤ ((others.filterMap line).map (·.2)).sum := by
  induction pairs with
  | nil => exact ⟨le_rfl, le_rfl⟩
  | @cons item other _ _ itemRelated _ inductionHypothesis =>
      obtain ⟨restCount, restTotal⟩ := inductionHypothesis
      cases ordered : line item with
      | none =>
          cases otherLined : line other with
          | none =>
              simp only [List.filterMap_cons, ordered, otherLined]
              exact ⟨restCount, restTotal⟩
          | some otherOrdered =>
              simp only [List.filterMap_cons, ordered, otherLined, List.length_cons,
                List.map_cons, List.sum_cons]
              exact ⟨by omega,
                le_add_of_nonneg_of_le (lineNonneg other otherOrdered otherLined) restTotal⟩
      | some itemOrdered =>
          obtain ⟨otherOrdered, otherLined, le⟩ := lineLe itemRelated itemOrdered ordered
          simp only [List.filterMap_cons, ordered, otherLined, List.length_cons, List.map_cons,
            List.sum_cons]
          exact ⟨by omega, add_le_add le restTotal⟩

variable {config : MrpConfig}

/-! ## Lot-for-lot -/

/-- The lines of lot-for-lot, chosen row by row. -/
theorem lotForLotLines_eq_filterMap (rows : List NetRequirement) :
    lotForLotLines config rows = rows.filterMap fun row =>
      if 0 < row.netRequirement then some (row.date, config.adjustOrderQuantity row.netRequirement)
      else none := by
  induction rows with
  | nil => rfl
  | cons row rest inductionHypothesis =>
      by_cases positive : 0 < row.netRequirement <;>
        simp [lotForLotLines, positive, inductionHypothesis]

/-- Lot-for-lot gives a row that needs no more no line or one no larger, and,
with a nonnegative maximum, no negative line. -/
theorem lotForLotLines_le
    (maximumNonneg : ∀ maxQty, config.maximumOrderQty = some maxQty → 0 ≤ maxQty)
    {rows others : List NetRequirement} (pairs : List.Forall₂ NeedsNoMore rows others) :
    (lotForLotLines config rows).length ≤ (lotForLotLines config others).length ∧
      ((lotForLotLines config rows).map (·.2)).sum ≤
        ((lotForLotLines config others).map (·.2)).sum := by
  rw [lotForLotLines_eq_filterMap, lotForLotLines_eq_filterMap]
  refine filterMap_le_of_forall₂ (fun related ordered lined => ?_)
    (fun row ordered lined => ?_) pairs
  · split_ifs at lined with positive
    cases lined
    exact ⟨_, if_pos (positive.trans_le related.netLe),
      config.adjustOrderQuantity_mono related.netLe⟩
  · split_ifs at lined with positive
    cases lined
    exact MrpConfig.adjustOrderQuantity_nonneg maximumNonneg positive.le

/-! ## Period order quantity -/

/-- Windows are cut by dates alone: paired series with paired first rows keep
their pairing in what a window takes and in what it leaves. -/
theorem needsNoMore_takeWhile_dropWhile {first otherFirst : NetRequirement}
    (sameDate : first.date = otherFirst.date) {rows others : List NetRequirement}
    (pairs : List.Forall₂ NeedsNoMore rows others) :
    List.Forall₂ NeedsNoMore (rows.takeWhile (inPeriodOf first))
        (others.takeWhile (inPeriodOf otherFirst)) ∧
      List.Forall₂ NeedsNoMore (rows.dropWhile (inPeriodOf first))
        (others.dropWhile (inPeriodOf otherFirst)) := by
  induction pairs with
  | nil => exact ⟨.nil, .nil⟩
  | @cons row other rest otherRest related restPairs inductionHypothesis =>
      have samePeriod : inPeriodOf first row = inPeriodOf otherFirst other := by
        simp only [inPeriodOf, sameDate, related.sameDate]
      by_cases inPeriod : inPeriodOf otherFirst other = true
      · rw [List.takeWhile_cons_of_pos (samePeriod ▸ inPeriod),
          List.takeWhile_cons_of_pos inPeriod, List.dropWhile_cons_of_pos (samePeriod ▸ inPeriod),
          List.dropWhile_cons_of_pos inPeriod]
        exact ⟨.cons related inductionHypothesis.1, inductionHypothesis.2⟩
      · rw [List.takeWhile_cons_of_neg (samePeriod ▸ inPeriod),
          List.takeWhile_cons_of_neg inPeriod, List.dropWhile_cons_of_neg (samePeriod ▸ inPeriod),
          List.dropWhile_cons_of_neg inPeriod]
        exact ⟨.nil, .cons related restPairs⟩

/-- Paired series are cut into paired windows. -/
theorem periodWindows_needsNoMore {rows others : List NetRequirement}
    (pairs : List.Forall₂ NeedsNoMore rows others) :
    List.Forall₂ (List.Forall₂ NeedsNoMore) (periodWindows rows) (periodWindows others) := by
  induction rows using periodWindows.induct generalizing others with
  | case1 =>
      cases pairs
      rw [periodWindows]
      exact .nil
  | case2 first rest inductionHypothesis =>
      cases pairs with
      | cons related restPairs =>
          obtain ⟨taken, left⟩ := needsNoMore_takeWhile_dropWhile related.sameDate restPairs
          rw [periodWindows, periodWindows]
          exact .cons (.cons related taken) (inductionHypothesis left)

/-- A window that needs no more gets no line or one no larger. -/
theorem windowLine_le_of_needsNoMore {window otherWindow : List NetRequirement}
    (pairs : List.Forall₂ NeedsNoMore window otherWindow) (ordered : Int × ℚ)
    (lined : windowLine config window = some ordered) :
    ∃ otherOrdered, windowLine config otherWindow = some otherOrdered ∧
      ordered.2 ≤ otherOrdered.2 := by
  have totalLe :
      (window.map (·.netRequirement)).sum ≤ (otherWindow.map (·.netRequirement)).sum :=
    List.Forall₂.sum_le_sum (List.forall₂_map_left_iff.mpr (List.forall₂_map_right_iff.mpr
      (pairs.imp fun _ _ related => related.netLe)))
  cases pairs with
  | nil => cases lined
  | cons related restPairs =>
      simp only [windowLine] at lined ⊢
      split_ifs at lined with positive
      cases lined
      exact ⟨_, if_pos (positive.trans_le totalLe), config.adjustOrderQuantity_mono totalLe⟩

/-- With a nonnegative maximum, no window line is negative. -/
theorem windowLine_nonneg
    (maximumNonneg : ∀ maxQty, config.maximumOrderQty = some maxQty → 0 ≤ maxQty)
    (window : List NetRequirement) (ordered : Int × ℚ)
    (lined : windowLine config window = some ordered) : 0 ≤ ordered.2 := by
  cases window with
  | nil => cases lined
  | cons first others =>
      simp only [windowLine] at lined
      split_ifs at lined with positive
      cases lined
      exact MrpConfig.adjustOrderQuantity_nonneg maximumNonneg positive.le

/-! ## Rules that never read the net requirement -/

/-- Paired series carry the same events, all that fixed lots and min-max
read. -/
theorem map_rowEvents_eq {rows others : List NetRequirement}
    (pairs : List.Forall₂ NeedsNoMore rows others) :
    rows.map rowEvents = others.map rowEvents := by
  induction pairs with
  | nil => rfl
  | cons related _ inductionHypothesis =>
      rw [List.map_cons, List.map_cons, related.sameEvents, inductionHypothesis]

/-! ## Every rule but economic order quantity -/

variable {componentId : String} {calendar : WorkCalendar} {uuid : Nat}

/-- Placing no more lines, no more in total, gives no more orders, no more in
total. -/
theorem placeOrders_le (valid : calendar.HasWorkingWeekday) {lines otherLines : List (Int × ℚ)}
    {otherOrders : List PlannedOrder} (counted : lines.length ≤ otherLines.length)
    (totalLe : (lines.map (·.2)).sum ≤ (otherLines.map (·.2)).sum)
    (placed : placeOrders componentId config calendar uuid otherLines = .ok otherOrders) :
    ∃ orders, placeOrders componentId config calendar uuid lines = .ok orders ∧
      orders.length ≤ otherOrders.length ∧
      (orders.map (·.quantity)).sum ≤ (otherOrders.map (·.quantity)).sum := by
  obtain ⟨orders, ordersPlaced⟩ := placeOrders_returns valid uuid lines
  obtain ⟨count, total⟩ := placeOrders_totals ordersPlaced
  obtain ⟨otherCount, otherTotal⟩ := placeOrders_totals placed
  exact ⟨orders, ordersPlaced, count ▸ otherCount ▸ counted,
    total ▸ otherTotal ▸ totalLe⟩

/-- Under every rule but economic order quantity, a series that needs no more
is planned the same, or from no more lines that order no more in total. -/
theorem apply_needsNoMore_cases {floatLotSize : ℚ → ℚ} {rows others : List NetRequirement}
    (notEconomic : config.lotSizingRule ≠ .economicOrderQuantity)
    (maximumNonneg : ∀ maxQty, config.maximumOrderQty = some maxQty → 0 ≤ maxQty)
    (pairs : List.Forall₂ NeedsNoMore rows others) :
    apply floatLotSize componentId rows config calendar uuid =
        apply floatLotSize componentId others config calendar uuid ∨
      ∃ lines otherLines, apply floatLotSize componentId rows config calendar uuid =
          placeOrders componentId config calendar uuid lines ∧
        apply floatLotSize componentId others config calendar uuid =
          placeOrders componentId config calendar uuid otherLines ∧
        lines.length ≤ otherLines.length ∧ (lines.map (·.2)).sum ≤ (otherLines.map (·.2)).sum := by
  cases rule : config.lotSizingRule
  · obtain ⟨counted, totalLe⟩ := lotForLotLines_le maximumNonneg pairs
    exact .inr ⟨_, _, by simp only [apply, rule]; rfl, by simp only [apply, rule]; rfl,
      counted, totalLe⟩
  · left
    simp only [apply, rule, fixedOrderQuantity, fixedLotLines_congr (map_rowEvents_eq pairs)]
  · exact absurd rule notEconomic
  · have windowed : ∀ series : List NetRequirement, periodLines config series series.length 0 =
        (periodWindows series).filterMap (windowLine config) := fun series => by
      rw [periodLines_eq_windows series _ 0 (by omega), List.drop_zero]
    obtain ⟨counted, totalLe⟩ := filterMap_le_of_forall₂
      (fun related => windowLine_le_of_needsNoMore related) (windowLine_nonneg maximumNonneg)
      (periodWindows_needsNoMore pairs)
    refine .inr ⟨_, _, by simp only [apply, rule]; rfl, by simp only [apply, rule]; rfl, ?_, ?_⟩ <;>
      rwa [windowed, windowed]
  · left
    simp only [apply, rule, minMax, minMaxLines_congr (map_rowEvents_eq pairs)]

/-- Under every rule but economic order quantity, on a calendar with a working
weekday, a series that needs no more is planned whenever the other is, with no
more orders and no more in total. -/
theorem apply_needsNoMore {floatLotSize : ℚ → ℚ} {rows others : List NetRequirement}
    {otherOrders : List PlannedOrder}
    (notEconomic : config.lotSizingRule ≠ .economicOrderQuantity)
    (valid : calendar.HasWorkingWeekday)
    (maximumNonneg : ∀ maxQty, config.maximumOrderQty = some maxQty → 0 ≤ maxQty)
    (pairs : List.Forall₂ NeedsNoMore rows others)
    (planned : apply floatLotSize componentId others config calendar uuid = .ok otherOrders) :
    ∃ orders, apply floatLotSize componentId rows config calendar uuid = .ok orders ∧
      orders.length ≤ otherOrders.length ∧
      (orders.map (·.quantity)).sum ≤ (otherOrders.map (·.quantity)).sum := by
  rcases apply_needsNoMore_cases notEconomic maximumNonneg pairs with
    same | ⟨lines, otherLines, placed, otherPlaced, counted, totalLe⟩
  · exact ⟨otherOrders, same ▸ planned, le_rfl, le_rfl⟩
  · rw [placed]
    exact placeOrders_le valid counted totalLe (otherPlaced ▸ planned)

/-- Under every rule but economic order quantity, when a series that needs no
more and the other are both planned, the first has no more orders and orders
no more in total. -/
theorem apply_needsNoMore_of_ok {floatLotSize : ℚ → ℚ} {rows others : List NetRequirement}
    {orders otherOrders : List PlannedOrder}
    (notEconomic : config.lotSizingRule ≠ .economicOrderQuantity)
    (maximumNonneg : ∀ maxQty, config.maximumOrderQty = some maxQty → 0 ≤ maxQty)
    (pairs : List.Forall₂ NeedsNoMore rows others)
    (ordered : apply floatLotSize componentId rows config calendar uuid = .ok orders)
    (planned : apply floatLotSize componentId others config calendar uuid = .ok otherOrders) :
    orders.length ≤ otherOrders.length ∧
      (orders.map (·.quantity)).sum ≤ (otherOrders.map (·.quantity)).sum := by
  rcases apply_needsNoMore_cases notEconomic maximumNonneg pairs with
    same | ⟨lines, otherLines, placed, otherPlaced, counted, totalLe⟩
  · rw [same, planned, Except.ok.injEq] at ordered
    subst ordered
    exact ⟨le_rfl, le_rfl⟩
  · obtain ⟨count, total⟩ := placeOrders_totals (placed ▸ ordered)
    obtain ⟨otherCount, otherTotal⟩ := placeOrders_totals (otherPlaced ▸ planned)
    exact ⟨count ▸ otherCount ▸ counted, total ▸ otherTotal ▸ totalLe⟩

/-! ## Lot sizing reads only its own fields

No rule reads `mrp_enabled` or `allow_negative_inventory`, and only fixed
order quantity, economic order quantity and min-max read the safety stock. -/

/-- Two configs that agree on every field lot sizing reads but the safety
stock. -/
structure SameLotSizing (other config : MrpConfig) : Prop where
  leadTime : other.leadTimeDays = config.leadTimeDays
  rule : other.lotSizingRule = config.lotSizingRule
  fixedLot : other.fixedLotSize = config.fixedLotSize
  minimum : other.minimumOrderQty = config.minimumOrderQty
  maximum : other.maximumOrderQty = config.maximumOrderQty
  multiple : other.orderMultiple = config.orderMultiple
  procurement : other.procurementType = config.procurementType

variable {other : MrpConfig}

theorem SameLotSizing.adjustOrderQuantity_eq (same : SameLotSizing other config) :
    other.adjustOrderQuantity = config.adjustOrderQuantity := by
  funext quantity
  simp only [MrpConfig.adjustOrderQuantity, MrpConfig.applyMaximum, MrpConfig.applyMultiple,
    MrpConfig.applyMinimum, same.minimum, same.multiple, same.maximum]

/-- Placing orders reads the lead time and the procurement type only. -/
theorem placeOrders_config_congr (leadTime : other.leadTimeDays = config.leadTimeDays)
    (procurement : other.procurementType = config.procurementType) :
    ∀ (uuid : Nat) (lines : List (Int × ℚ)),
      placeOrders componentId other calendar uuid lines =
        placeOrders componentId config calendar uuid lines
  | _, [] => rfl
  | uuid, _ :: rest => by
      simp only [placeOrders, leadTime, procurement,
        placeOrders_config_congr leadTime procurement (uuid + 1) rest]

/-- The order-line loops read the config through the quantity adjustment,
and the fixed-lot loop through the safety stock too. -/
theorem lotForLotLines_config_congr
    (adjusted : other.adjustOrderQuantity = config.adjustOrderQuantity) :
    ∀ rows, lotForLotLines other rows = lotForLotLines config rows
  | [] => rfl
  | _ :: rest => by simp only [lotForLotLines, adjusted, lotForLotLines_config_congr adjusted rest]

theorem fixedLotLines_config_congr
    (adjusted : other.adjustOrderQuantity = config.adjustOrderQuantity)
    (stock : other.safetyStock = config.safetyStock) (lotSize : ℚ) :
    ∀ remainingInventory rows, fixedLotLines other lotSize remainingInventory rows =
      fixedLotLines config lotSize remainingInventory rows
  | _, [] => rfl
  | _, _ :: rest => by
      simp only [fixedLotLines, adjusted, stock,
        fixedLotLines_config_congr adjusted stock lotSize _ rest]

theorem periodLines_config_congr
    (adjusted : other.adjustOrderQuantity = config.adjustOrderQuantity)
    (rows : List NetRequirement) :
    ∀ fuel periodStartIndex, periodLines other rows fuel periodStartIndex =
      periodLines config rows fuel periodStartIndex
  | 0, _ => rfl
  | fuel + 1, _ => by simp only [periodLines, adjusted, periodLines_config_congr adjusted rows fuel]

theorem minMaxLines_config_congr
    (adjusted : other.adjustOrderQuantity = config.adjustOrderQuantity) (minLevel maxLevel : ℚ) :
    ∀ currentInventory rows, minMaxLines other minLevel maxLevel currentInventory rows =
      minMaxLines config minLevel maxLevel currentInventory rows
  | _, [] => rfl
  | _, _ :: rest => by
      simp only [minMaxLines, adjusted, minMaxLines_config_congr adjusted minLevel maxLevel _ rest]

/-- Configs that agree on the fields lot sizing reads give the same orders,
when they also agree on the safety stock under the rules that read it. -/
theorem apply_config_congr (same : SameLotSizing other config)
    (stock : config.lotSizingRule = .fixedOrderQuantity ∨
      config.lotSizingRule = .economicOrderQuantity ∨ config.lotSizingRule = .minMax →
      other.safetyStock = config.safetyStock)
    (floatLotSize : ℚ → ℚ) (rows : List NetRequirement) :
    apply floatLotSize componentId rows other calendar uuid =
      apply floatLotSize componentId rows config calendar uuid := by
  have placed : ∀ lines, placeOrders componentId other calendar uuid lines =
      placeOrders componentId config calendar uuid lines :=
    placeOrders_config_congr same.leadTime same.procurement uuid
  have adjusted := same.adjustOrderQuantity_eq
  unfold apply
  rw [same.rule]
  cases rule : config.lotSizingRule
  · simp only [lotForLot, placed, lotForLotLines_config_congr adjusted]
  · simp only [fixedOrderQuantity, same.fixedLot, placed,
      fixedLotLines_config_congr adjusted (stock (.inl rule))]
  · simp only [economicOrderQuantity, economicLotSize, same.fixedLot, placed,
      fixedLotLines_config_congr adjusted (stock (.inr (.inl rule)))]
  · simp only [periodOrderQuantity, placed, periodLines_config_congr adjusted]
  · simp only [minMax, same.minimum, same.maximum, stock (.inr (.inr rule)), placed,
      minMaxLines_config_congr adjusted]

end LotSizingCalculator

namespace MrpCalculator

/-- Whenever an item's plan returns both with some available stock and with
more, the plan with more stock orders no more often and no more in total,
under every rule but economic order quantity and with a nonnegative maximum
order quantity, when one is set. -/
theorem calculateComponentMrp_moreStock {calculator : MrpCalculator} {floatLotSize : ℚ → ℚ}
    {componentId : String} {componentDemands : List Demand}
    {groupedSupplies : String → List Supply} {lessStock moreStock : String → Option Inventory}
    {timeBuckets : List Int} {uuid : Nat} {config : MrpConfig}
    {lessOrders moreOrders : List PlannedOrder}
    (configured : calculator.configs componentId = some config)
    (notEconomic : config.lotSizingRule ≠ .economicOrderQuantity)
    (maximumNonneg : ∀ maxQty, config.maximumOrderQty = some maxQty → 0 ≤ maxQty)
    (stocked : ((lessStock componentId).map (·.availableQty)).getD 0 ≤
      ((moreStock componentId).map (·.availableQty)).getD 0)
    (planned : calculator.calculateComponentMrp floatLotSize componentId componentDemands
      groupedSupplies lessStock timeBuckets uuid = .ok lessOrders)
    (morePlanned : calculator.calculateComponentMrp floatLotSize componentId componentDemands
      groupedSupplies moreStock timeBuckets uuid = .ok moreOrders) :
    moreOrders.length ≤ lessOrders.length ∧
      (moreOrders.map (·.quantity)).sum ≤ (lessOrders.map (·.quantity)).sum := by
  rw [calculateComponentMrp, configured] at planned morePlanned
  simp only at planned morePlanned
  split_ifs at planned morePlanned
  · cases planned
    cases morePlanned
    exact ⟨le_rfl, le_rfl⟩
  · exact LotSizingCalculator.apply_needsNoMore_of_ok notEconomic maximumNonneg
      (NettingCalculator.loop_needsNoMore _ _ _ _ stocked _) morePlanned planned

/-- One item bought in weekly periods with no lead time, on a calendar where
every day works. -/
def weeklyBuyPlant : MrpCalculator :=
  { bomGraph := ⟨[], []⟩,
    configs := fun _ => some { MrpConfig.new 0 .buy with lotSizingRule := .periodOrderQuantity },
    calendar := WorkCalendar.new247 }

/-- Demands of 10 and 5 in one week with no stock are bought in one order of
25, the netting loop's running shortfalls added up; with 12 in stock the plan
orders 3. -/
theorem calculateComponentMrp_moreStock_weekly :
    weeklyBuyPlant.configs "X" =
        some { MrpConfig.new 0 .buy with lotSizingRule := .periodOrderQuantity } ∧
      LotSizingRule.periodOrderQuantity ≠ .economicOrderQuantity ∧
      (∀ maxQty, (MrpConfig.new 0 .buy).maximumOrderQty = some maxQty → 0 ≤ maxQty) ∧
      (((fun _ => none : String → Option Inventory) "X").map (·.availableQty)).getD 0 ≤
        (((fun _ => some (Inventory.new "X" 12 0) : String → Option Inventory) "X").map
          (·.availableQty)).getD 0 ∧
      weeklyBuyPlant.calculateComponentMrp (fun _ => 0) "X"
          [Demand.new 1 "X" 10 1 .salesOrder, Demand.new 2 "X" 5 3 .salesOrder] (fun _ => [])
          (fun _ => none) [1, 3] 3 =
        .ok [PlannedOrder.new 3 "X" 25 1 1 .purchase] ∧
      weeklyBuyPlant.calculateComponentMrp (fun _ => 0) "X"
          [Demand.new 1 "X" 10 1 .salesOrder, Demand.new 2 "X" 5 3 .salesOrder] (fun _ => [])
          (fun _ => some (Inventory.new "X" 12 0)) [1, 3] 3 =
        .ok [PlannedOrder.new 3 "X" 3 1 1 .purchase] ∧
      [PlannedOrder.new 3 "X" 3 1 1 .purchase].length ≤
        [PlannedOrder.new 3 "X" 25 1 1 .purchase].length ∧
      ([PlannedOrder.new 3 "X" 3 1 1 .purchase].map (·.quantity)).sum ≤
        ([PlannedOrder.new 3 "X" 25 1 1 .purchase].map (·.quantity)).sum :=
  have configured : weeklyBuyPlant.configs "X" =
      some { MrpConfig.new 0 .buy with lotSizingRule := .periodOrderQuantity } := rfl
  have notEconomic : LotSizingRule.periodOrderQuantity ≠ .economicOrderQuantity := by decide
  have maximumNonneg : ∀ maxQty, (MrpConfig.new 0 .buy).maximumOrderQty = some maxQty →
      0 ≤ maxQty := by simp [MrpConfig.new]
  have stocked :
      (((fun _ => none : String → Option Inventory) "X").map (·.availableQty)).getD 0 ≤
      (((fun _ => some (Inventory.new "X" 12 0) : String → Option Inventory) "X").map
        (·.availableQty)).getD 0 := by simp [Inventory.new]
  have planned : weeklyBuyPlant.calculateComponentMrp (fun _ => 0) "X"
      [Demand.new 1 "X" 10 1 .salesOrder, Demand.new 2 "X" 5 3 .salesOrder] (fun _ => [])
      (fun _ => none) [1, 3] 3 = .ok [PlannedOrder.new 3 "X" 25 1 1 .purchase] := by
    with_unfolding_all rfl
  have morePlanned : weeklyBuyPlant.calculateComponentMrp (fun _ => 0) "X"
      [Demand.new 1 "X" 10 1 .salesOrder, Demand.new 2 "X" 5 3 .salesOrder] (fun _ => [])
      (fun _ => some (Inventory.new "X" 12 0)) [1, 3] 3 =
        .ok [PlannedOrder.new 3 "X" 3 1 1 .purchase] := by
    with_unfolding_all rfl
  ⟨configured, notEconomic, maximumNonneg, stocked, planned, morePlanned,
    calculateComponentMrp_moreStock configured notEconomic maximumNonneg stocked planned
      morePlanned⟩

/-- Netting against a lower target, a lower safety stock or negative
inventory allowed, never makes an item's plan fail where it succeeded, nor
order more often or more in total: under every rule but economic order
quantity, with the safety stock kept under the rules that read it themselves
(fixed order quantity and min-max), on a calendar with a working weekday and
with a nonnegative maximum order quantity, when one is set. -/
theorem calculateComponentMrp_lowerTarget {calculator lowered : MrpCalculator}
    {floatLotSize : ℚ → ℚ} {componentId : String} {componentDemands : List Demand}
    {groupedSupplies : String → List Supply} {inventoryMap : String → Option Inventory}
    {timeBuckets : List Int} {uuid : Nat} {config : MrpConfig} {safetyStock : ℚ}
    {allowNegativeInventory : Bool} {orders : List PlannedOrder}
    (configured : calculator.configs componentId = some config)
    (loweredConfigured : lowered.configs componentId = some
      { config with safetyStock := safetyStock, allowNegativeInventory := allowNegativeInventory })
    (sameCalendar : lowered.calendar = calculator.calendar)
    (notEconomic : config.lotSizingRule ≠ .economicOrderQuantity)
    (stockKept : config.lotSizingRule = .fixedOrderQuantity ∨ config.lotSizingRule = .minMax →
      safetyStock = config.safetyStock)
    (valid : calculator.calendar.HasWorkingWeekday)
    (maximumNonneg : ∀ maxQty, config.maximumOrderQty = some maxQty → 0 ≤ maxQty)
    (lowerTarget : NettingCalculator.nettingTarget safetyStock allowNegativeInventory ≤
      NettingCalculator.nettingTarget config.safetyStock config.allowNegativeInventory)
    (planned : calculator.calculateComponentMrp floatLotSize componentId componentDemands
      groupedSupplies inventoryMap timeBuckets uuid = .ok orders) :
    ∃ lowerOrders, lowered.calculateComponentMrp floatLotSize componentId componentDemands
        groupedSupplies inventoryMap timeBuckets uuid = .ok lowerOrders ∧
      lowerOrders.length ≤ orders.length ∧
      (lowerOrders.map (·.quantity)).sum ≤ (orders.map (·.quantity)).sum := by
  rw [calculateComponentMrp, configured] at planned
  rw [calculateComponentMrp, loweredConfigured, sameCalendar]
  simp only [MrpConfig.needsMrp] at planned ⊢
  split_ifs at planned ⊢
  · cases planned
    exact ⟨[], rfl, le_rfl, le_rfl⟩
  · have same : LotSizingCalculator.SameLotSizing
        { config with safetyStock := safetyStock, allowNegativeInventory := allowNegativeInventory }
        config := ⟨rfl, rfl, rfl, rfl, rfl, rfl, rfl⟩
    rw [LotSizingCalculator.apply_config_congr same
      fun read => stockKept (read.imp_right fun read => read.resolve_left notEconomic)]
    exact LotSizingCalculator.apply_needsNoMore notEconomic valid maximumNonneg
      (NettingCalculator.loop_needsNoMore_target _ _ lowerTarget _ _) planned

/-- One item bought lot-for-lot with no lead time and a safety stock of 5, on a
calendar where every day works. -/
def safetyStockPlant : MrpCalculator :=
  { bomGraph := ⟨[], []⟩, configs := fun _ => some { MrpConfig.new 0 .buy with safetyStock := 5 },
    calendar := WorkCalendar.new247 }

/-- The same plant netting with negative inventory allowed. -/
def negativeStockPlant : MrpCalculator :=
  { safetyStockPlant with
    configs := fun _ =>
      some { MrpConfig.new 0 .buy with safetyStock := 5, allowNegativeInventory := true } }

/-- Ten due on day 1 against three in stock: keeping the safety stock of 5
orders 12, and allowing negative inventory orders no more (7). -/
theorem calculateComponentMrp_lowerTarget_negative :
    safetyStockPlant.configs "X" = some { MrpConfig.new 0 .buy with safetyStock := 5 } ∧
      negativeStockPlant.configs "X" = some
        { { MrpConfig.new 0 .buy with safetyStock := 5 } with
          safetyStock := 5, allowNegativeInventory := true } ∧
      negativeStockPlant.calendar = safetyStockPlant.calendar ∧
      LotSizingRule.lotForLot ≠ .economicOrderQuantity ∧
      (LotSizingRule.lotForLot = .fixedOrderQuantity ∨ LotSizingRule.lotForLot = .minMax →
        (5 : ℚ) = 5) ∧
      safetyStockPlant.calendar.HasWorkingWeekday ∧
      (∀ maxQty, (MrpConfig.new 0 .buy).maximumOrderQty = some maxQty → 0 ≤ maxQty) ∧
      NettingCalculator.nettingTarget 5 true ≤ NettingCalculator.nettingTarget 5 false ∧
      safetyStockPlant.calculateComponentMrp (fun _ => 0) "X"
          [Demand.new 1 "X" 10 1 .salesOrder] (fun _ => [])
          (fun _ => some (Inventory.new "X" 3 0)) [1] 2 =
        .ok [PlannedOrder.new 2 "X" 12 1 1 .purchase] ∧
      ∃ lowerOrders, negativeStockPlant.calculateComponentMrp (fun _ => 0) "X"
          [Demand.new 1 "X" 10 1 .salesOrder] (fun _ => [])
          (fun _ => some (Inventory.new "X" 3 0)) [1] 2 = .ok lowerOrders ∧
        lowerOrders.length ≤ [PlannedOrder.new 2 "X" 12 1 1 .purchase].length ∧
        (lowerOrders.map (·.quantity)).sum ≤
          ([PlannedOrder.new 2 "X" 12 1 1 .purchase].map (·.quantity)).sum :=
  have configured : safetyStockPlant.configs "X" =
      some { MrpConfig.new 0 .buy with safetyStock := 5 } := rfl
  have loweredConfigured : negativeStockPlant.configs "X" = some
      { { MrpConfig.new 0 .buy with safetyStock := 5 } with
        safetyStock := 5, allowNegativeInventory := true } := rfl
  have notEconomic : LotSizingRule.lotForLot ≠ .economicOrderQuantity := by decide
  have valid : safetyStockPlant.calendar.HasWorkingWeekday := ⟨0, rfl⟩
  have maximumNonneg : ∀ maxQty, (MrpConfig.new 0 .buy).maximumOrderQty = some maxQty →
      0 ≤ maxQty := by simp [MrpConfig.new]
  have lowerTarget : NettingCalculator.nettingTarget 5 true ≤
      NettingCalculator.nettingTarget 5 false := by
    norm_num [NettingCalculator.nettingTarget]
  have planned : safetyStockPlant.calculateComponentMrp (fun _ => 0) "X"
      [Demand.new 1 "X" 10 1 .salesOrder] (fun _ => [])
      (fun _ => some (Inventory.new "X" 3 0)) [1] 2 =
        .ok [PlannedOrder.new 2 "X" 12 1 1 .purchase] := by
    with_unfolding_all rfl
  ⟨configured, loweredConfigured, rfl, notEconomic, fun _ => rfl, valid, maximumNonneg,
    lowerTarget, planned, calculateComponentMrp_lowerTarget configured loweredConfigured rfl
      notEconomic (fun _ => rfl) valid maximumNonneg lowerTarget planned⟩

end MrpCalculator

end NexusMrp
