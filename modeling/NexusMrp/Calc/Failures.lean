import NexusMrp.Calc.Calculator
import NexusMrp.Calc.RuleOutcomes

/-!
# How a run fails

Every `Err` a run of `calculate` returns has a cause its inputs show.
Planning an item looks its config up (`ConfigNotFound`); fixed order quantity
needs a lot (`MissingLotSize`); exploding orders reads the child node of every
BOM edge (`BomExplosionError`). The kernel returns no other error, in
particular none of `TopologicalSortError`, `InvalidDate`, `CalculationError`
or `Other` (`calculate_failure_explained`). Of the panics, the model has the
division by a zero lot in the loop shared by fixed and economic order
quantity, and the `expect("日期溢出")` of a positive lead time on a calendar
where no weekday works (`runWorklist_error`); those of `rust_decimal`'s
overflow and of dates beyond chrono's range are left out.
-/

namespace NexusMrp

namespace LotSizingCalculator

section

variable {componentId : String} {config : MrpConfig} {calendar : WorkCalendar}

/-- Placing orders fails only when an order date does not exist: a positive
lead time on a calendar where no weekday works. -/
theorem placeOrders_error {uuid : Nat} {lines : List (Int × ℚ)} {failure : Failure}
    (fails : placeOrders componentId config calendar uuid lines = .error failure) :
    failure = .panic "日期溢出" ∧ ¬calendar.HasWorkingWeekday ∧ 0 < config.leadTimeDays := by
  induction lines generalizing uuid with
  | nil => cases fails
  | cons line rest inductionHypothesis =>
      obtain ⟨requiredDate, quantity⟩ := line
      simp only [placeOrders] at fails
      cases dated : calendar.subtractWorkingDays requiredDate config.leadTimeDays with
      | none =>
          simp only [dated] at fails
          cases fails
          refine ⟨rfl, fun valid => ?_, Nat.pos_of_ne_zero fun noLeadTime => ?_⟩
          · obtain ⟨orderDate, found⟩ :=
              calendar.walk_budget_returns .backward valid requiredDate config.leadTimeDays
            rw [WorkCalendar.subtractWorkingDays, found] at dated
            cases dated
          · rw [WorkCalendar.subtractWorkingDays, noLeadTime, WorkCalendar.walk_zero_remaining]
              at dated
            cases dated
      | some orderDate =>
          simp only [dated] at fails
          rcases Except.bind_eq_error.mp fails with restFails | ⟨_, _, returned⟩
          · exact inductionHypothesis restFails
          · cases returned

/-- The lot of economic order quantity is zero only when the configured lot
is, or, without one, when the floating-point lot of a positive total is. -/
theorem economicLotSize_eq_zero {floatLotSize : ℚ → ℚ} {rows : List NetRequirement}
    (zero : economicLotSize floatLotSize rows config = 0) :
    config.fixedLotSize = some 0 ∨
      config.fixedLotSize = none ∧ ∃ total, 0 < total ∧ floatLotSize total = 0 := by
  unfold economicLotSize at zero
  split at zero
  case h_1 fixedSize configured => exact .inl (zero ▸ configured)
  case h_2 configured =>
    dsimp only at zero
    split_ifs at zero with positive
    · exact .inr ⟨configured, _, positive, zero⟩
    · norm_num at zero

/-- `apply` fails only for a fixed order quantity without a lot, a zero lot in
the division, or an order date that does not exist. -/
theorem apply_error {floatLotSize : ℚ → ℚ} {rows : List NetRequirement} {uuid : Nat}
    {failure : Failure}
    (fails : apply floatLotSize componentId rows config calendar uuid = .error failure) :
    (failure = .err .missingLotSize ∧ config.lotSizingRule = .fixedOrderQuantity ∧
        config.fixedLotSize = none) ∨
      (failure = .panic "Division by zero" ∧
        (config.lotSizingRule = .fixedOrderQuantity ∧ config.fixedLotSize = some 0 ∨
          config.lotSizingRule = .economicOrderQuantity ∧
            economicLotSize floatLotSize rows config = 0)) ∨
      (failure = .panic "日期溢出" ∧ ¬calendar.HasWorkingWeekday ∧ 0 < config.leadTimeDays) := by
  have divides : ∀ lotSize, fixedLotLines config lotSize 0 rows >>=
      placeOrders componentId config calendar uuid = .error failure →
        failure = .panic "Division by zero" ∧ lotSize = 0 ∨
          failure = .panic "日期溢出" ∧ ¬calendar.HasWorkingWeekday ∧
            0 < config.leadTimeDays := fun lotSize failed => by
    rcases Except.bind_eq_error.mp failed with decided | ⟨lines, _, placed⟩
    · obtain ⟨zeroLot, same⟩ := fixedLotLines_error decided
      exact .inl ⟨same, zeroLot⟩
    · exact .inr (placeOrders_error placed)
  unfold apply at fails
  split at fails
  case h_1 => exact .inr (.inr (placeOrders_error fails))
  case h_2 fixedRule =>
    unfold fixedOrderQuantity at fails
    split at fails
    case h_1 lotSize configured =>
      rcases divides lotSize fails with ⟨same, zeroLot⟩ | overflow
      · exact .inr (.inl ⟨same, .inl ⟨fixedRule, zeroLot ▸ configured⟩⟩)
      · exact .inr (.inr overflow)
    case h_2 noLot =>
      cases fails
      exact .inl ⟨rfl, fixedRule, Option.eq_none_iff_forall_not_mem.mpr noLot⟩
  case h_3 economicRule =>
    rcases divides _ fails with ⟨same, zeroLot⟩ | overflow
    · exact .inr (.inl ⟨same, .inr ⟨economicRule, zeroLot⟩⟩)
    · exact .inr (.inr overflow)
  case h_4 => exact .inr (.inr (placeOrders_error fails))
  case h_5 => exact .inr (.inr (placeOrders_error fails))

end

end LotSizingCalculator

namespace MrpCalculator

/-- The failures a run's inputs explain, one constructor per cause: an item
without a config, a fixed-order-quantity item without a lot, a BOM edge to a
node outside the arena, a zero lot of fixed or economic order quantity, and a
positive lead time on a calendar where no weekday works. -/
inductive FailureExplained (calculator : MrpCalculator) (floatLotSize : ℚ → ℚ) :
    Failure → Prop
  | configNotFound {componentId : String} (missing : calculator.configs componentId = none) :
      FailureExplained calculator floatLotSize (.err (.configNotFound componentId))
  | missingLotSize {componentId : String} {config : MrpConfig}
      (configured : calculator.configs componentId = some config)
      (fixedRule : config.lotSizingRule = .fixedOrderQuantity)
      (noLot : config.fixedLotSize = none) :
      FailureExplained calculator floatLotSize (.err .missingLotSize)
  | bomExplosion {edge : Nat × Nat × ℚ} (member : edge ∈ calculator.bomGraph.edges)
      (outside : calculator.bomGraph.nodes.length ≤ edge.2.1) :
      FailureExplained calculator floatLotSize (.err (.bomExplosionError "無法獲取子件節點"))
  | fixedZeroLot {componentId : String} {config : MrpConfig}
      (configured : calculator.configs componentId = some config)
      (fixedRule : config.lotSizingRule = .fixedOrderQuantity)
      (zeroLot : config.fixedLotSize = some 0) :
      FailureExplained calculator floatLotSize (.panic "Division by zero")
  | economicZeroLot {componentId : String} {config : MrpConfig}
      (configured : calculator.configs componentId = some config)
      (economicRule : config.lotSizingRule = .economicOrderQuantity)
      (zeroLot : config.fixedLotSize = some 0 ∨
        config.fixedLotSize = none ∧ ∃ total, 0 < total ∧ floatLotSize total = 0) :
      FailureExplained calculator floatLotSize (.panic "Division by zero")
  | dateOverflow {componentId : String} {config : MrpConfig}
      (configured : calculator.configs componentId = some config)
      (noWorkingWeekday : ¬calculator.calendar.HasWorkingWeekday)
      (leadTimePos : 0 < config.leadTimeDays) :
      FailureExplained calculator floatLotSize (.panic "日期溢出")

section

variable {calculator : MrpCalculator} {floatLotSize : ℚ → ℚ}

theorem calculateComponentMrp_error {componentId : String} {componentDemands : List Demand}
    {groupedSupplies : String → List Supply} {inventoryMap : String → Option Inventory}
    {timeBuckets : List Int} {uuid : Nat} {failure : Failure}
    (fails : calculator.calculateComponentMrp floatLotSize componentId componentDemands
      groupedSupplies inventoryMap timeBuckets uuid = .error failure) :
    FailureExplained calculator floatLotSize failure := by
  unfold calculateComponentMrp at fails
  split at fails
  case h_1 missing =>
    cases fails
    exact .configNotFound missing
  case h_2 config configured =>
    split_ifs at fails
    · cases fails
    · rcases LotSizingCalculator.apply_error fails with
        ⟨rfl, fixedRule, noLot⟩ | ⟨rfl, ⟨fixedRule, zeroLot⟩ | ⟨economicRule, zeroLot⟩⟩ |
          ⟨rfl, noWorkingWeekday, leadTimePos⟩
      · exact .missingLotSize configured fixedRule noLot
      · exact .fixedZeroLot configured fixedRule zeroLot
      · exact .economicZeroLot configured economicRule
          (LotSizingCalculator.economicLotSize_eq_zero zeroLot)
      · exact .dateOverflow configured noWorkingWeekday leadTimePos

variable {graph : BomGraph} {parentId : String}

/-- Exploding one order fails only at a child index outside the arena. -/
theorem explodeOrder_error {plannedOrder : PlannedOrder} {uuid : Nat}
    {children : List (Nat × ℚ)} {failure : Failure}
    (fails : explodeOrder graph parentId plannedOrder uuid children = .error failure) :
    failure = .err (.bomExplosionError "無法獲取子件節點") ∧
      ∃ child ∈ children, graph.node child.1 = none := by
  induction children generalizing uuid with
  | nil => cases fails
  | cons child rest inductionHypothesis =>
      obtain ⟨childNodeIdx, quantityPer⟩ := child
      simp only [explodeOrder] at fails
      cases found : graph.node childNodeIdx with
      | none =>
          simp only [found] at fails
          cases fails
          exact ⟨rfl, _, List.mem_cons_self _ _, found⟩
      | some childId =>
          simp only [found] at fails
          rcases Except.bind_eq_error.mp fails with restFails | ⟨_, _, returned⟩
          · obtain ⟨same, bad, member, missing⟩ := inductionHypothesis restFails
            exact ⟨same, bad, List.mem_cons_of_mem _ member, missing⟩
          · cases returned

theorem explodeOrders_error {children : List (Nat × ℚ)} {uuid : Nat}
    {plannedOrders : List PlannedOrder} {failure : Failure}
    (fails : explodeOrders graph parentId children uuid plannedOrders = .error failure) :
    failure = .err (.bomExplosionError "無法獲取子件節點") ∧
      ∃ child ∈ children, graph.node child.1 = none := by
  induction plannedOrders generalizing uuid with
  | nil => cases fails
  | cons plannedOrder rest inductionHypothesis =>
      simp only [explodeOrders] at fails
      rcases Except.bind_eq_error.mp fails with firstFails | ⟨_, _, restFails⟩
      · exact explodeOrder_error firstFails
      · rcases Except.bind_eq_error.mp restFails with othersFail | ⟨_, _, returned⟩
        · exact inductionHypothesis othersFail
        · cases returned

/-- `explode_bom` fails only at a BOM edge whose child is outside the arena. -/
theorem explodeBom_error {plannedOrders : List PlannedOrder} {uuid : Nat} {failure : Failure}
    (fails : calculator.explodeBom parentId plannedOrders uuid = .error failure) :
    FailureExplained calculator floatLotSize failure := by
  unfold explodeBom at fails
  split_ifs at fails
  · cases fails
  · cases found : calculator.bomGraph.findNode parentId with
    | none =>
        simp only [found] at fails
        cases fails
    | some parentNode =>
        simp only [found] at fails
        split_ifs at fails
        · cases fails
        · obtain ⟨rfl, child, member, missing⟩ := explodeOrders_error fails
          rw [BomGraph.children] at member
          obtain ⟨edge, edgeMember, rfl⟩ := List.mem_map.mp member
          exact .bomExplosion (List.mem_filter.mp edgeMember).1
            (List.getElem?_eq_none_iff.mp missing)

theorem processComponent_error {order : HashOrder} {inputs : LoopInputs} {state : KernelState}
    {componentId : String} {failure : Failure}
    (fails : calculator.processComponent floatLotSize order inputs state componentId =
      .error failure) :
    FailureExplained calculator floatLotSize failure := by
  unfold processComponent at fails
  split_ifs at fails
  · cases fails
  · cases fails
  · rcases Except.bind_eq_error.mp fails with planFails | ⟨_, _, rest⟩
    · exact calculateComponentMrp_error planFails
    · rcases Except.bind_eq_error.mp rest with explodeFails | ⟨_, _, returned⟩
      · exact explodeBom_error explodeFails
      · cases returned

theorem runWorklist_error {order : HashOrder} {inputs : LoopInputs} {fuel : Nat}
    {state : KernelState} {failure : Failure}
    (fails : calculator.runWorklist floatLotSize order inputs fuel state = .error failure) :
    FailureExplained calculator floatLotSize failure := by
  induction fuel generalizing state with
  | zero => cases fails
  | succ fuel inductionHypothesis =>
      rw [runWorklist] at fails
      split at fails
      · cases fails
      · rcases Except.bind_eq_error.mp fails with stepFails | ⟨_, _, restFails⟩
        · exact processComponent_error stepFails
        · exact inductionHypothesis restFails

end

/-- Every `Err` a run returns has a cause in its inputs: an item without a
config, a fixed-order-quantity item without a lot, or a BOM edge to a node
outside the arena. -/
theorem calculate_failure_explained (calculator : MrpCalculator) (floatLotSize : ℚ → ℚ)
    (order : HashOrder) (demands : List Demand) (supplies : List Supply)
    (inventories : List Inventory) {error : MrpError}
    (fails : calculator.calculate floatLotSize order demands supplies inventories =
      .error (.err error)) :
    FailureExplained calculator floatLotSize (.err error) := by
  rcases Except.bind_eq_error.mp fails with loopFails | ⟨_, _, returned⟩
  · exact runWorklist_error loopFails
  · cases returned

/-- An assembly whose one BOM edge points at node 5 of a one-node arena. -/
def brokenBomPlant : MrpCalculator :=
  { bomGraph := ⟨["A"], [(0, 5, 1)]⟩, configs := fun _ => some (MrpConfig.new 0 .make),
    calendar := WorkCalendar.new247 }

/-- Ordering the assembly explodes into the missing node. -/
theorem calculate_failure_explained_brokenBom :
    brokenBomPlant.calculate (fun _ => 0) .insertion [Demand.new 1 "A" 4 3 .salesOrder] [] [] =
        .error (.err (.bomExplosionError "無法獲取子件節點")) ∧
      FailureExplained brokenBomPlant (fun _ => 0)
        (.err (.bomExplosionError "無法獲取子件節點")) :=
  have fails : brokenBomPlant.calculate (fun _ => 0) .insertion
      [Demand.new 1 "A" 4 3 .salesOrder] [] [] =
        .error (.err (.bomExplosionError "無法獲取子件節點")) := by
    with_unfolding_all rfl
  ⟨fails, calculate_failure_explained _ _ _ _ _ _ fails⟩

end MrpCalculator

end NexusMrp
