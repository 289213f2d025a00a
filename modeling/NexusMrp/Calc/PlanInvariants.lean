import NexusMrp.Calc.KernelSteps
import NexusMrp.Core.WorkingDays

/-!
# Invariants of the planned orders

Every order the kernel returns comes from one call of
`calculate_component_mrp` on an item not processed before. From what that
call returns (`calculateComponentMrp_ok`) two run invariants follow: every
order is dated back from its required date by its item's lead time, and no
two orders share an item and a required date. The first gives the lead-time
round trip on the calendar; the second bounds pegging, since an input demand
is matched by at most one order.
-/

namespace NexusMrp

namespace MrpCalculator

section

variable {calculator : MrpCalculator} {floatLotSize : ℚ → ℚ} {order : HashOrder}
  {inputs : LoopInputs}

/-- What `calculate_component_mrp` returns: orders of the item on distinct
required dates, each dated back by the lead time of the item's config, with
consecutive fresh ids. -/
theorem calculateComponentMrp_ok {componentId : String} {componentDemands : List Demand}
    {groupedSupplies : String → List Supply} {inventoryMap : String → Option Inventory}
    {timeBuckets : List Int} {uuid : Nat} {plannedOrders : List PlannedOrder}
    (planned : calculator.calculateComponentMrp floatLotSize componentId componentDemands
      groupedSupplies inventoryMap timeBuckets uuid = .ok plannedOrders) :
    ∃ config, calculator.configs componentId = some config ∧
      (plannedOrders.map (·.requiredDate)).Nodup ∧
      plannedOrders.map (·.id) = List.range' uuid plannedOrders.length ∧
      ∀ plannedOrder ∈ plannedOrders, plannedOrder.componentId = componentId ∧
        calculator.calendar.subtractWorkingDays plannedOrder.requiredDate
          config.leadTimeDays = some plannedOrder.orderDate := by
  unfold calculateComponentMrp at planned
  split at planned
  · cases planned
  case h_2 config found =>
    refine ⟨config, found, ?_⟩
    split_ifs at planned
    · cases planned; simp
    · obtain ⟨lines, placed, datesWithin⟩ := LotSizingCalculator.apply_ok planned
      obtain ⟨sameLines, ids, each⟩ := LotSizingCalculator.placeOrders_ok placed
      have requiredDates : plannedOrders.map (·.requiredDate) = lines.map Prod.fst := by
        rw [← sameLines, List.map_map]; rfl
      have sameLength : lines.length = plannedOrders.length := by
        rw [← sameLines, List.length_map]
      refine ⟨?_, sameLength ▸ ids, each⟩
      rw [requiredDates]
      refine datesWithin.nodup ?_
      rw [componentNetRequirements, NettingCalculator.calculate, NettingCalculator.loop_dates]
      exact sortedDates_nodup _

/-- Every order the loop collects satisfies a property that every order
`calculate_component_mrp` returns satisfies. -/
theorem runWorklist_orders (property : PlannedOrder → Prop)
    (planned : ∀ componentId componentDemands uuid plannedOrders,
      calculator.calculateComponentMrp floatLotSize componentId componentDemands
        inputs.groupedSupplies inputs.inventoryMap inputs.timeBuckets uuid = .ok plannedOrders →
      ∀ plannedOrder ∈ plannedOrders, property plannedOrder)
    {fuel : Nat} {state final : KernelState}
    (holds : ∀ plannedOrder ∈ state.allPlannedOrders, property plannedOrder)
    (ran : calculator.runWorklist floatLotSize order inputs fuel state = .ok final) :
    ∀ plannedOrder ∈ final.allPlannedOrders, property plannedOrder := by
  refine calculator.runWorklist_invariant floatLotSize order inputs
    (fun state => ∀ plannedOrder ∈ state.allPlannedOrders, property plannedOrder)
    ?_ holds ran
  intro state componentId rest next invariant _ stepped
  rcases calculator.processComponent_ok floatLotSize order inputs stepped with
    ⟨-, rfl⟩ | ⟨-, -, rfl⟩ | ⟨-, plannedOrders, childDemands, calculated, -, rfl⟩
  · exact invariant
  · exact invariant
  · simp only [recordPlan_allPlannedOrders, List.mem_append]
    rintro plannedOrder (earlier | new)
    · exact invariant plannedOrder earlier
    · exact planned _ _ _ _ calculated plannedOrder new

/-- A run that returns `Ok` is the loop run to `Ok`, with pegging over the
input demands. -/
theorem calculate_ok {demands : List Demand} {supplies : List Supply}
    {inventories : List Inventory} {result : MrpResult}
    (ran : calculator.calculate floatLotSize order demands supplies inventories = .ok result) :
    ∃ final, calculator.runWorklist floatLotSize order
        (loopInputs demands supplies inventories) (calculator.worklistFuel demands)
        (initialState (topologicalSort order demands) (firstFreshUuid demands)) = .ok final ∧
      result.plannedOrders = final.allPlannedOrders ∧
      result.pegging = PeggingCalculator.perform final.allPlannedOrders demands .multiLevel := by
  obtain ⟨final, looped, returned⟩ := Except.bind_eq_ok.mp ran
  cases returned
  exact ⟨final, looped, rfl, rfl⟩

end

/-! ## Lead times -/

/-- Every planned order of a run is dated back from its required date by the
lead time of its item. On a calendar with a working weekday and a positive
lead time the order date is a working day, and adding the lead time back
lands on the first working day on or after the required date; a zero lead
time leaves the order date on the required date. -/
theorem calculate_orderDate_leadTime (calculator : MrpCalculator) (floatLotSize : ℚ → ℚ)
    (order : HashOrder) (demands : List Demand) (supplies : List Supply)
    (inventories : List Inventory) (result : MrpResult)
    (valid : calculator.calendar.HasWorkingWeekday)
    (ran : calculator.calculate floatLotSize order demands supplies inventories = .ok result) :
    ∀ plannedOrder ∈ result.plannedOrders, ∃ config,
      calculator.configs plannedOrder.componentId = some config ∧
      (config.leadTimeDays = 0 → plannedOrder.orderDate = plannedOrder.requiredDate) ∧
      (0 < config.leadTimeDays →
        calculator.calendar.isWorkingDay plannedOrder.orderDate = true ∧
        ∃ arrival, calculator.calendar.addWorkingDays plannedOrder.orderDate
            config.leadTimeDays = some arrival ∧
          calculator.calendar.IsFirstWorkingDayFrom plannedOrder.requiredDate arrival) := by
  obtain ⟨final, looped, returned, -⟩ := calculate_ok ran
  rw [returned]
  have dated := runWorklist_orders (fun plannedOrder => ∃ config,
      calculator.configs plannedOrder.componentId = some config ∧
      calculator.calendar.subtractWorkingDays plannedOrder.requiredDate config.leadTimeDays =
        some plannedOrder.orderDate)
    (fun _ _ _ _ calculated plannedOrder member => by
      obtain ⟨config, found, -, -, each⟩ := calculateComponentMrp_ok calculated
      obtain ⟨owner, subtracts⟩ := each plannedOrder member
      exact ⟨config, owner ▸ found, subtracts⟩)
    (by simp [initialState]) looped
  intro plannedOrder member
  obtain ⟨config, found, subtracts⟩ := dated plannedOrder member
  refine ⟨config, found, fun noLead => ?_, fun leadPos =>
    calculator.calendar.subtractWorkingDays_then_add valid leadPos subtracts⟩
  rw [WorkCalendar.subtractWorkingDays, noLead, WorkCalendar.walk_zero_remaining] at subtracts
  exact (Option.some.inj subtracts).symm

/-- A one-item plant on the Monday-to-Friday calendar, lot-for-lot. -/
def weekdayPlant (leadTimeDays : Nat) : MrpCalculator :=
  { bomGraph := ⟨[], []⟩, configs := fun _ => some (MrpConfig.new leadTimeDays .make),
    calendar := WorkCalendar.new }

theorem calculate_orderDate_leadTime_tuesday :
    (weekdayPlant 1).calendar.HasWorkingWeekday ∧
      (weekdayPlant 1).calculate (fun _ => 0) .insertion [Demand.new 1 "X" 10 5 .salesOrder]
        [] [] = .ok ⟨[PlannedOrder.new 2 "X" 10 5 4 .production],
          [(2, [PeggingRecord.new 1 10 ["X"]])]⟩ ∧
      ∀ plannedOrder ∈ [PlannedOrder.new 2 "X" 10 5 4 .production], ∃ config,
        (weekdayPlant 1).configs plannedOrder.componentId = some config ∧
        (config.leadTimeDays = 0 → plannedOrder.orderDate = plannedOrder.requiredDate) ∧
        (0 < config.leadTimeDays →
          (weekdayPlant 1).calendar.isWorkingDay plannedOrder.orderDate = true ∧
          ∃ arrival, (weekdayPlant 1).calendar.addWorkingDays plannedOrder.orderDate
              config.leadTimeDays = some arrival ∧
            (weekdayPlant 1).calendar.IsFirstWorkingDayFrom plannedOrder.requiredDate arrival) :=
  have valid : (weekdayPlant 1).calendar.HasWorkingWeekday := ⟨0, rfl⟩
  have ran : (weekdayPlant 1).calculate (fun _ => 0) .insertion
      [Demand.new 1 "X" 10 5 .salesOrder] [] [] =
        .ok ⟨[PlannedOrder.new 2 "X" 10 5 4 .production],
          [(2, [PeggingRecord.new 1 10 ["X"]])]⟩ := by
    with_unfolding_all rfl
  ⟨valid, ran, calculate_orderDate_leadTime _ _ _ _ _ _ _ valid ran⟩

/-- With no lead time an order keeps its required date even when that is a
Saturday, and adding no working days to it stays on the Saturday. -/
theorem calculate_orderDate_saturday :
    (weekdayPlant 0).calendar.HasWorkingWeekday ∧
      (weekdayPlant 0).calculate (fun _ => 0) .insertion [Demand.new 1 "X" 10 2 .salesOrder]
        [] [] = .ok ⟨[PlannedOrder.new 2 "X" 10 2 2 .production],
          [(2, [PeggingRecord.new 1 10 ["X"]])]⟩ ∧
      (weekdayPlant 0).calendar.isWorkingDay 2 = false ∧
      (weekdayPlant 0).calendar.addWorkingDays 2 0 = some 2 :=
  ⟨⟨0, rfl⟩, by with_unfolding_all rfl, by decide, rfl⟩

/-! ## Fresh order ids -/

/-- The orders collected so far have distinct ids, all below the next id to
draw. -/
structure IdsFresh (state : KernelState) : Prop where
  distinct : (state.allPlannedOrders.map (·.id)).Nodup
  below : ∀ plannedOrder ∈ state.allPlannedOrders, plannedOrder.id < state.nextUuid

/-- Every iteration keeps the ids fresh: an item's orders draw consecutive ids
from the next one, and the next id moves past them. -/
theorem idsFresh_processComponent {calculator : MrpCalculator} {floatLotSize : ℚ → ℚ}
    {order : HashOrder} {inputs : LoopInputs} {state next : KernelState}
    {componentId : String} (fresh : IdsFresh state)
    (stepped : calculator.processComponent floatLotSize order inputs state componentId =
      .ok next) :
    IdsFresh next := by
  rcases calculator.processComponent_ok floatLotSize order inputs stepped with
    ⟨-, rfl⟩ | ⟨-, -, rfl⟩ | ⟨-, plannedOrders, childDemands, calculated, -, rfl⟩
  · exact fresh
  · exact ⟨fresh.distinct, fresh.below⟩
  · obtain ⟨_, -, -, ids, -⟩ := calculateComponentMrp_ok calculated
    constructor
    · rw [recordPlan_allPlannedOrders, List.map_append, List.nodup_append, ids]
      refine ⟨fresh.distinct, List.nodup_range' _ _, fun id earlier later => ?_⟩
      obtain ⟨plannedOrder, member, rfl⟩ := List.mem_map.mp earlier
      have before := fresh.below plannedOrder member
      rw [List.mem_range'_1] at later
      omega
    · simp only [recordPlan_allPlannedOrders, recordPlan_nextUuid, List.mem_append]
      rintro plannedOrder (earlier | new)
      · have before := fresh.below plannedOrder earlier
        omega
      · have drawn := List.mem_map_of_mem (·.id) new
        simp only [ids, List.mem_range'_1] at drawn
        omega

/-- A run from the initial state collects orders with distinct ids. -/
theorem runWorklist_idsFresh {calculator : MrpCalculator} {floatLotSize : ℚ → ℚ}
    {order : HashOrder} {inputs : LoopInputs} {fuel : Nat} {sortedComponents : List String}
    {uuid : Nat} {final : KernelState}
    (looped : calculator.runWorklist floatLotSize order inputs fuel
      (initialState sortedComponents uuid) = .ok final) :
    IdsFresh final :=
  calculator.runWorklist_invariant floatLotSize order _ IdsFresh
    (fun state _ rest _ fresh _ stepped =>
      have poppedFresh : IdsFresh
          { state with componentsToProcess := rest, iterations := state.iterations + 1 } :=
        ⟨fresh.1, fresh.2⟩
      idsFresh_processComponent poppedFresh stepped)
    ⟨by simp [initialState], by simp [initialState]⟩ looped

/-! ## One order per item and date -/

/-- The orders collected so far belong to processed items and no two share an
item and a required date. -/
structure OrdersKeyed (state : KernelState) : Prop where
  ownersProcessed : ∀ plannedOrder ∈ state.allPlannedOrders,
    plannedOrder.componentId ∈ state.processedComponents
  distinctKeys : (state.allPlannedOrders.map fun plannedOrder =>
    (plannedOrder.componentId, plannedOrder.requiredDate)).Nodup

/-- Every iteration keeps the orders keyed by item and date: an item is
planned only while unprocessed, so none of its orders exist yet, and its new
orders have distinct dates. -/
theorem ordersKeyed_processComponent {calculator : MrpCalculator} {floatLotSize : ℚ → ℚ}
    {order : HashOrder} {inputs : LoopInputs} {state next : KernelState}
    {componentId : String} (keyed : OrdersKeyed state)
    (stepped : calculator.processComponent floatLotSize order inputs state componentId =
      .ok next) :
    OrdersKeyed next := by
  rcases calculator.processComponent_ok floatLotSize order inputs stepped with
    ⟨-, rfl⟩ | ⟨-, -, rfl⟩ | ⟨fresh, plannedOrders, childDemands, calculated, -, rfl⟩
  · exact keyed
  · exact ⟨fun plannedOrder member =>
      List.mem_cons_of_mem _ (keyed.ownersProcessed plannedOrder member), keyed.distinctKeys⟩
  · obtain ⟨_, -, distinctDates, -, each⟩ := calculateComponentMrp_ok calculated
    constructor
    · simp only [recordPlan_allPlannedOrders, recordPlan_processedComponents, List.mem_append,
        List.mem_cons]
      rintro plannedOrder (earlier | new)
      · exact .inr (keyed.ownersProcessed plannedOrder earlier)
      · exact .inl (each plannedOrder new).1
    · have newKeys : (plannedOrders.map fun plannedOrder =>
          (plannedOrder.componentId, plannedOrder.requiredDate)) =
            (plannedOrders.map (·.requiredDate)).map (componentId, ·) := by
        rw [List.map_map]
        exact List.map_congr_left fun plannedOrder member => by
          simp [(each plannedOrder member).1]
      rw [recordPlan_allPlannedOrders, List.map_append, List.nodup_append, newKeys]
      refine ⟨keyed.distinctKeys, distinctDates.map fun _ _ same => (Prod.ext_iff.mp same).2,
        ?_⟩
      intro key earlier later
      obtain ⟨plannedOrder, member, rfl⟩ := List.mem_map.mp earlier
      obtain ⟨date, -, sameKey⟩ := List.mem_map.mp later
      have sameOwner : componentId = plannedOrder.componentId := congrArg Prod.fst sameKey
      exact fresh (sameOwner ▸ keyed.ownersProcessed plannedOrder member)

/-- Summing values that vanish off one key over a list with distinct keys
gives at most the bound on the single remaining value. -/
theorem sum_le_of_nodup_keys {α κ : Type} {items : List α} {key : α → κ} (target : κ)
    {value : α → ℚ} {bound : ℚ} (distinct : (items.map key).Nodup)
    (outside : ∀ item ∈ items, key item ≠ target → value item = 0)
    (inside : ∀ item ∈ items, value item ≤ bound) (boundNonneg : 0 ≤ bound) :
    (items.map value).sum ≤ bound := by
  induction items with
  | nil => simpa using boundNonneg
  | cons item rest inductionHypothesis =>
      rw [List.map_cons, List.nodup_cons] at distinct
      rw [List.map_cons, List.sum_cons]
      by_cases atTarget : key item = target
      · have restZero : (rest.map value).sum = 0 := by
          refine List.sum_eq_zero fun other member => ?_
          obtain ⟨restItem, restMember, rfl⟩ := List.mem_map.mp member
          refine outside restItem (List.mem_cons_of_mem _ restMember) fun same => ?_
          exact distinct.1 (same.trans atTarget.symm ▸ List.mem_map_of_mem key restMember)
        rw [restZero, add_zero]
        exact inside item (List.mem_cons_self _ _)
      · rw [outside item (List.mem_cons_self _ _) atTarget, zero_add]
        exact inductionHypothesis distinct.2
          (fun other member => outside other (List.mem_cons_of_mem _ member))
          (fun other member => inside other (List.mem_cons_of_mem _ member))

/-- No input demand is over-pegged across orders: with distinct demand ids and
positive quantities, the records pegging a demand, over the pegging lists of
all planned orders, total at most its quantity. -/
theorem calculate_peggedTotal_le (calculator : MrpCalculator) (floatLotSize : ℚ → ℚ)
    (order : HashOrder) (demands : List Demand) (supplies : List Supply)
    (inventories : List Inventory) (result : MrpResult)
    (ran : calculator.calculate floatLotSize order demands supplies inventories = .ok result)
    (distinctIds : (demands.map (·.id)).Nodup)
    (positive : ∀ demand ∈ demands, 0 < demand.quantity) :
    ∀ demand ∈ demands,
      PeggingCalculator.peggedTotal result.pegging demand.id ≤ demand.quantity := by
  obtain ⟨final, looped, -, pegging⟩ := calculate_ok ran
  have keyed : OrdersKeyed final :=
    calculator.runWorklist_invariant floatLotSize order _ OrdersKeyed
      (fun state _ rest _ keyed _ stepped =>
        have poppedKeyed : OrdersKeyed
            { state with componentsToProcess := rest, iterations := state.iterations + 1 } :=
          ⟨keyed.1, keyed.2⟩
        ordersKeyed_processComponent poppedKeyed stepped)
      ⟨by simp [initialState], by simp [initialState]⟩ looped
  intro demand member
  rw [pegging, PeggingCalculator.perform_of_nodup (runWorklist_idsFresh looped).distinct,
    PeggingCalculator.peggedTotal, List.map_map]
  have traced := fun (plannedOrder : PlannedOrder) =>
    PeggingCalculator.pegged_traceDemandSource plannedOrder.componentId plannedOrder.quantity
      plannedOrder.requiredDate .multiLevel distinctIds member (positive demand member).le
  exact sum_le_of_nodup_keys (demand.componentId, demand.requiredDate) keyed.distinctKeys
    (fun plannedOrder _ differs => (traced plannedOrder).2 (Ne.symm differs))
    (fun plannedOrder _ => (traced plannedOrder).1) (positive demand member).le

theorem calculate_peggedTotal_le_tuesday :
    (weekdayPlant 1).calculate (fun _ => 0) .insertion
        [Demand.new 1 "X" 10 5 .salesOrder, Demand.new 2 "X" 5 5 .forecast] [] [] =
      .ok ⟨[PlannedOrder.new 3 "X" 15 5 4 .production],
        [(3, [PeggingRecord.new 1 10 ["X"], PeggingRecord.new 2 5 ["X"]])]⟩ ∧
      ([Demand.new 1 "X" 10 5 .salesOrder, Demand.new 2 "X" 5 5 .forecast].map (·.id)).Nodup ∧
      (∀ demand ∈ [Demand.new 1 "X" 10 5 .salesOrder, Demand.new 2 "X" 5 5 .forecast],
        0 < demand.quantity) ∧
      ∀ demand ∈ [Demand.new 1 "X" 10 5 .salesOrder, Demand.new 2 "X" 5 5 .forecast],
        PeggingCalculator.peggedTotal
          [(3, [PeggingRecord.new 1 10 ["X"], PeggingRecord.new 2 5 ["X"]])] demand.id ≤
          demand.quantity :=
  have ran : (weekdayPlant 1).calculate (fun _ => 0) .insertion
      [Demand.new 1 "X" 10 5 .salesOrder, Demand.new 2 "X" 5 5 .forecast] [] [] =
        .ok ⟨[PlannedOrder.new 3 "X" 15 5 4 .production],
          [(3, [PeggingRecord.new 1 10 ["X"], PeggingRecord.new 2 5 ["X"]])]⟩ := by
    with_unfolding_all rfl
  have distinctIds : ([Demand.new 1 "X" 10 5 .salesOrder,
      Demand.new 2 "X" 5 5 .forecast].map (·.id)).Nodup := by decide
  have positive : ∀ demand ∈ [Demand.new 1 "X" 10 5 .salesOrder,
      Demand.new 2 "X" 5 5 .forecast], 0 < demand.quantity := by
    simp only [List.mem_cons, List.mem_singleton, List.not_mem_nil, or_false, forall_eq_or_imp,
      forall_eq, Demand.new]
    norm_num
  ⟨ran, distinctIds, positive,
    calculate_peggedTotal_le _ _ _ _ _ _ _ ran distinctIds positive⟩

/-- A run from the initial state keeps its orders keyed by item and date. -/
theorem runWorklist_ordersKeyed {calculator : MrpCalculator} {floatLotSize : ℚ → ℚ}
    {order : HashOrder} {inputs : LoopInputs} {fuel : Nat} {sortedComponents : List String}
    {uuid : Nat} {final : KernelState}
    (looped : calculator.runWorklist floatLotSize order inputs fuel
      (initialState sortedComponents uuid) = .ok final) :
    OrdersKeyed final :=
  calculator.runWorklist_invariant floatLotSize order _ OrdersKeyed
    (fun state _ rest _ keyed _ stepped =>
      have poppedKeyed : OrdersKeyed
          { state with componentsToProcess := rest, iterations := state.iterations + 1 } :=
        ⟨keyed.1, keyed.2⟩
      ordersKeyed_processComponent poppedKeyed stepped)
    ⟨by simp [initialState], by simp [initialState]⟩ looped

/-- A run plans no item twice for one date: no two of its planned orders share
an item and a required date. -/
theorem calculate_ordersKeyed (calculator : MrpCalculator) (floatLotSize : ℚ → ℚ)
    (order : HashOrder) (demands : List Demand) (supplies : List Supply)
    (inventories : List Inventory) {result : MrpResult}
    (ran : calculator.calculate floatLotSize order demands supplies inventories = .ok result) :
    (result.plannedOrders.map fun plannedOrder =>
      (plannedOrder.componentId, plannedOrder.requiredDate)).Nodup := by
  obtain ⟨final, looped, planned, -⟩ := calculate_ok ran
  rw [planned]
  exact (runWorklist_ordersKeyed looped).distinctKeys

/-- Demands on Tuesday and Wednesday are ordered once each. -/
theorem calculate_ordersKeyed_twoDays :
    (weekdayPlant 1).calculate (fun _ => 0) .insertion
        [Demand.new 1 "X" 10 5 .salesOrder, Demand.new 2 "X" 5 6 .forecast] [] [] =
      .ok ⟨[PlannedOrder.new 3 "X" 10 5 4 .production, PlannedOrder.new 4 "X" 15 6 5 .production],
        [(3, [PeggingRecord.new 1 10 ["X"]]), (4, [PeggingRecord.new 2 5 ["X"]])]⟩ ∧
      ([PlannedOrder.new 3 "X" 10 5 4 .production,
          PlannedOrder.new 4 "X" 15 6 5 .production].map fun plannedOrder =>
        (plannedOrder.componentId, plannedOrder.requiredDate)).Nodup :=
  have ran : (weekdayPlant 1).calculate (fun _ => 0) .insertion
      [Demand.new 1 "X" 10 5 .salesOrder, Demand.new 2 "X" 5 6 .forecast] [] [] =
        .ok ⟨[PlannedOrder.new 3 "X" 10 5 4 .production,
            PlannedOrder.new 4 "X" 15 6 5 .production],
          [(3, [PeggingRecord.new 1 10 ["X"]]), (4, [PeggingRecord.new 2 5 ["X"]])]⟩ := by
    with_unfolding_all rfl
  ⟨ran, calculate_ordersKeyed _ _ _ _ _ _ ran⟩

end MrpCalculator

end NexusMrp
