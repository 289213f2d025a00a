import NexusMrp.Calc.PlanInvariants
import NexusMrp.Core.Holidays

/-!
# Lead times in calendar days

A backward walk of `n` working days moves back at least `n` days and at most
its budget of `7 * (holidays + 1)` days per working day (`calculateOrderDate_span`),
so every order of a run carries its config's order type and a lead time within
those bounds (`calculate_followsConfig`). Adding holidays to the calendar keeps
an item's orders but moves their order dates no later
(`calculateComponentMrp_worksWithin`), and a run releases each item's orders in
the order they are required (`calculate_releasedInOrder`).
-/

namespace NexusMrp

/-- `LeadTimeCalculator::calculate_order_date`. -/
def LeadTimeCalculator.calculateOrderDate (requiredDate : Int) (leadTimeDays : Nat)
    (calendar : WorkCalendar) : Option Int :=
  calendar.subtractWorkingDays requiredDate leadTimeDays

/-- `PlannedOrder::lead_time_days`: the calendar days from the order date to
the required date. -/
def PlannedOrder.leadTimeDays (plannedOrder : PlannedOrder) : Int :=
  plannedOrder.requiredDate - plannedOrder.orderDate

namespace WorkCalendar

variable (calendar : WorkCalendar) (direction : Direction)

/-- A walk moves one day per step in its direction, so it ends at most its
fuel away from its start. -/
theorem walk_steps {fuel : Nat} {start result : Int} {days : Nat}
    (walks : calendar.walk direction fuel start days = some result) :
    ∃ steps ≤ fuel, result = start + direction.offset * steps := by
  induction fuel generalizing start days with
  | zero =>
      cases days with
      | zero => cases walks; exact ⟨0, le_rfl, by simp⟩
      | succ days => cases walks
  | succ fuel inductionHypothesis =>
      cases days with
      | zero =>
          rw [walk_zero_remaining] at walks
          cases walks
          exact ⟨0, Nat.zero_le _, by simp⟩
      | succ days =>
          rw [walk_succ] at walks
          obtain ⟨steps, stepsLe, moved⟩ : ∃ steps ≤ fuel,
              result = start + direction.offset + direction.offset * steps := by
            split_ifs at walks <;> exact inductionHypothesis walks
          exact ⟨steps + 1, by omega, by rw [moved]; push_cast; ring⟩

/-- An interval holds no more working days than days. -/
theorem workingDaysBetween_le_toNat (start endDate : Int) :
    calendar.workingDaysBetween start endDate ≤ (endDate - start).toNat := by
  rw [workingDaysBetween_eq_card, ← Int.card_Ioc]
  exact Finset.card_filter_le _ _

/-- On a calendar where every day works, an interval holds as many working days
as days. -/
theorem workingDaysBetween_of_allWorking (allWorking : ∀ date, calendar.isWorkingDay date = true)
    (start endDate : Int) :
    calendar.workingDaysBetween start endDate = (endDate - start).toNat := by
  rw [workingDaysBetween_eq_card, Finset.filter_true_of_mem fun date _ => allWorking date,
    Int.card_Ioc]

/-- Subtracting working days keeps dates in order: a later start ends no
earlier. -/
theorem subtractWorkingDays_mono {date later early late : Int} {days : Nat}
    (dateLe : date ≤ later) (subtracts : calendar.subtractWorkingDays date days = some early)
    (laterSubtracts : calendar.subtractWorkingDays later days = some late) : early ≤ late := by
  rcases Nat.eq_zero_or_pos days with rfl | daysPos
  · simp only [subtractWorkingDays, walk_zero_remaining, Option.some.injEq]
      at subtracts laterSubtracts
    omega
  · obtain ⟨earlyLe, countBack, -, -⟩ := calendar.walk_backward_sound subtracts
    refine calendar.le_subtractWorkingDays_of_count daysPos laterSubtracts (by omega) ?_
    rw [← countBack]
    exact calendar.workingDaysBetween_mono (by omega) (by omega)

end WorkCalendar

namespace LeadTimeCalculator

/-- The order date of `calculate_order_date` lies at least the lead time and at
most its walk budget of calendar days before the required date, and exactly
the lead time before it on a calendar where every day works. -/
theorem calculateOrderDate_span {requiredDate orderDate : Int} {leadTimeDays : Nat}
    {calendar : WorkCalendar}
    (dated : calculateOrderDate requiredDate leadTimeDays calendar = some orderDate) :
    (leadTimeDays : Int) ≤ requiredDate - orderDate ∧
      requiredDate - orderDate ≤ calendar.walkBudget leadTimeDays ∧
      ((∀ date, calendar.isWorkingDay date = true) → requiredDate - orderDate = leadTimeDays) := by
  obtain ⟨-, countBack, -, -⟩ := calendar.walk_backward_sound dated
  obtain ⟨steps, stepsLe, moved⟩ := calendar.walk_steps .backward dated
  rw [Direction.offset_backward] at moved
  have within := calendar.workingDaysBetween_le_toNat (orderDate - 1) (requiredDate - 1)
  refine ⟨by omega, by omega, fun allWorking => ?_⟩
  rw [calendar.workingDaysBetween_of_allWorking allWorking] at countBack
  omega

end LeadTimeCalculator

namespace LotSizingCalculator

/-- Every placed order has the order type of the config's procurement type. -/
theorem placeOrders_orderType {componentId : String} {config : MrpConfig}
    {calendar : WorkCalendar} {uuid : Nat} {lines : List (Int × ℚ)}
    {orders : List PlannedOrder}
    (placed : placeOrders componentId config calendar uuid lines = .ok orders) :
    ∀ order ∈ orders, order.orderType = determineOrderType config.procurementType := by
  induction lines generalizing uuid orders with
  | nil => cases placed; simp
  | cons line rest inductionHypothesis =>
      obtain ⟨requiredDate, quantity⟩ := line
      simp only [placeOrders] at placed
      cases dated : calendar.subtractWorkingDays requiredDate config.leadTimeDays with
      | none => simp [dated] at placed
      | some orderDate =>
          simp only [dated, Except.bind_eq_ok, pure, Except.pure, Except.ok.injEq] at placed
          obtain ⟨placedRest, restOk, rfl⟩ := placed
          simp only [List.mem_cons, forall_eq_or_imp]
          exact ⟨rfl, inductionHypothesis restOk⟩

/-- The rules read no calendar: a plan's order lines serve every calendar. -/
theorem apply_eq_placeOrders {floatLotSize : ℚ → ℚ} {componentId : String}
    {rows : List NetRequirement} {config : MrpConfig} {calendar : WorkCalendar} {uuid : Nat}
    {orders : List PlannedOrder}
    (applied : apply floatLotSize componentId rows config calendar uuid = .ok orders) :
    ∃ lines, placeOrders componentId config calendar uuid lines = .ok orders ∧
      ∀ other : WorkCalendar, apply floatLotSize componentId rows config other uuid =
        placeOrders componentId config other uuid lines := by
  cases rule : config.lotSizingRule <;> simp only [apply, rule] at applied ⊢
  case lotForLot => exact ⟨_, applied, fun _ => rfl⟩
  case periodOrderQuantity => exact ⟨_, applied, fun _ => rfl⟩
  case minMax => exact ⟨_, applied, fun _ => rfl⟩
  case economicOrderQuantity =>
    obtain ⟨lines, decided, placed⟩ := Except.bind_eq_ok.mp applied
    refine ⟨lines, placed, fun _ => ?_⟩
    simp only [economicOrderQuantity, decided]
    rfl
  case fixedOrderQuantity =>
    cases lot : config.fixedLotSize with
    | none => simp [fixedOrderQuantity, lot] at applied
    | some lotSize =>
        simp only [fixedOrderQuantity, lot] at applied ⊢
        obtain ⟨lines, decided, placed⟩ := Except.bind_eq_ok.mp applied
        refine ⟨lines, placed, fun _ => ?_⟩
        simp only [decided]
        rfl

/-- Placed on a calendar working within the old one, every order is kept but
for its order date, which comes no later. -/
theorem placeOrders_worksWithin {fewer more : WorkCalendar} (within : fewer.WorksWithin more)
    (valid : fewer.HasWorkingWeekday) {componentId : String} {config : MrpConfig} {uuid : Nat}
    {lines : List (Int × ℚ)} {orders : List PlannedOrder}
    (placed : placeOrders componentId config more uuid lines = .ok orders) :
    ∃ heldOrders, placeOrders componentId config fewer uuid lines = .ok heldOrders ∧
      List.Forall₂ (fun held plannedOrder => { held with orderDate := plannedOrder.orderDate } =
        plannedOrder ∧ held.orderDate ≤ plannedOrder.orderDate) heldOrders orders := by
  induction lines generalizing uuid orders with
  | nil =>
      cases placed
      exact ⟨[], rfl, .nil⟩
  | cons line rest inductionHypothesis =>
      obtain ⟨requiredDate, quantity⟩ := line
      obtain ⟨early, late, earlyDated, lateDated, earlyLe⟩ :=
        within.subtractWorkingDays_le valid requiredDate config.leadTimeDays
      simp only [placeOrders, lateDated, Except.bind_eq_ok, pure, Except.pure,
        Except.ok.injEq] at placed
      obtain ⟨placedRest, restOk, rfl⟩ := placed
      obtain ⟨heldRest, heldOk, related⟩ := inductionHypothesis restOk
      refine ⟨PlannedOrder.new uuid componentId quantity requiredDate early
        (determineOrderType config.procurementType) :: heldRest, ?_, .cons ⟨rfl, earlyLe⟩ related⟩
      simp only [placeOrders, earlyDated, heldOk]
      rfl

end LotSizingCalculator

namespace MrpCalculator

/-- What a planned order takes from its item's config: the order type of the
procurement type, and a lead time in calendar days of at least the configured
working days and at most their walk budget, exactly the configured days on a
calendar where every day works. -/
structure FollowsConfig (calendar : WorkCalendar) (config : MrpConfig)
    (plannedOrder : PlannedOrder) : Prop where
  orderType : plannedOrder.orderType =
    LotSizingCalculator.determineOrderType config.procurementType
  leadTimeAtLeast : (config.leadTimeDays : Int) ≤ plannedOrder.leadTimeDays
  leadTimeAtMost : plannedOrder.leadTimeDays ≤ calendar.walkBudget config.leadTimeDays
  everyDayWorks : (∀ date, calendar.isWorkingDay date = true) →
    plannedOrder.leadTimeDays = config.leadTimeDays

/-- `calculate_component_mrp` places its orders under the item's config. -/
theorem calculateComponentMrp_placeOrders {calculator : MrpCalculator}
    {floatLotSize : ℚ → ℚ} {componentId : String} {componentDemands : List Demand}
    {groupedSupplies : String → List Supply} {inventoryMap : String → Option Inventory}
    {timeBuckets : List Int} {uuid : Nat} {plannedOrders : List PlannedOrder}
    (planned : calculator.calculateComponentMrp floatLotSize componentId componentDemands
      groupedSupplies inventoryMap timeBuckets uuid = .ok plannedOrders) :
    ∃ config lines, calculator.configs componentId = some config ∧
      LotSizingCalculator.placeOrders componentId config calculator.calendar uuid lines =
        .ok plannedOrders := by
  unfold calculateComponentMrp at planned
  split at planned
  · cases planned
  case h_2 config found =>
    split_ifs at planned
    · cases planned
      exact ⟨config, [], found, rfl⟩
    · obtain ⟨lines, placed, -⟩ := LotSizingCalculator.apply_ok planned
      exact ⟨config, lines, found, placed⟩

/-- Every planned order of a run carries its item's config: the order type of
its procurement type, and a lead time of at least the configured working days
and at most `7 * (holidays + 1)` calendar days for each of them, exactly the
configured days on a calendar where every day works. -/
theorem calculate_followsConfig (calculator : MrpCalculator) (floatLotSize : ℚ → ℚ)
    (order : HashOrder) (demands : List Demand) (supplies : List Supply)
    (inventories : List Inventory) (result : MrpResult)
    (ran : calculator.calculate floatLotSize order demands supplies inventories = .ok result) :
    ∀ plannedOrder ∈ result.plannedOrders, ∃ config,
      calculator.configs plannedOrder.componentId = some config ∧
      FollowsConfig calculator.calendar config plannedOrder := by
  obtain ⟨final, looped, returned, -⟩ := calculate_ok ran
  rw [returned]
  refine runWorklist_orders _ (fun _ _ _ _ calculated plannedOrder member => ?_)
    (by simp [initialState]) looped
  obtain ⟨config, lines, found, placed⟩ := calculateComponentMrp_placeOrders calculated
  obtain ⟨-, -, each⟩ := LotSizingCalculator.placeOrders_ok placed
  obtain ⟨owner, dated⟩ := each plannedOrder member
  obtain ⟨atLeast, atMost, everyDay⟩ := LeadTimeCalculator.calculateOrderDate_span dated
  exact ⟨config, owner ▸ found,
    ⟨LotSizingCalculator.placeOrders_orderType placed plannedOrder member, atLeast, atMost,
      everyDay⟩⟩

/-- A bike made in two working days from two frames bought in three, on the
Monday-to-Friday calendar with day 8, a Friday, off. -/
def bikePlant : MrpCalculator :=
  { bomGraph := ⟨["BIKE", "FRAME"], [(0, 1, 2)]⟩,
    configs := fun item =>
      if item = "BIKE" then some (MrpConfig.new 2 .make) else some (MrpConfig.new 3 .buy),
    calendar := { WorkCalendar.new with holidays := [8] } }

/-- Ten bikes due on Tuesday, day 12: the bikes are ordered on Thursday, day 7,
five calendar days ahead across the weekend and the holiday. -/
theorem calculate_followsConfig_bike :
    bikePlant.calculate (fun _ => 0) .insertion [Demand.new 1 "BIKE" 10 12 .salesOrder] [] [] =
        .ok ⟨[PlannedOrder.new 2 "BIKE" 10 12 7 .production,
            PlannedOrder.new 4 "FRAME" 20 7 4 .purchase,
            PlannedOrder.new 5 "FRAME" 20 12 6 .purchase],
          [(2, [PeggingRecord.new 1 10 ["BIKE"]]), (4, []), (5, [])]⟩ ∧
      ∀ plannedOrder ∈ [PlannedOrder.new 2 "BIKE" 10 12 7 .production,
          PlannedOrder.new 4 "FRAME" 20 7 4 .purchase,
          PlannedOrder.new 5 "FRAME" 20 12 6 .purchase], ∃ config,
        bikePlant.configs plannedOrder.componentId = some config ∧
        FollowsConfig bikePlant.calendar config plannedOrder :=
  have ran : bikePlant.calculate (fun _ => 0) .insertion
      [Demand.new 1 "BIKE" 10 12 .salesOrder] [] [] =
        .ok ⟨[PlannedOrder.new 2 "BIKE" 10 12 7 .production,
            PlannedOrder.new 4 "FRAME" 20 7 4 .purchase,
            PlannedOrder.new 5 "FRAME" 20 12 6 .purchase],
          [(2, [PeggingRecord.new 1 10 ["BIKE"]]), (4, []), (5, [])]⟩ := by
    with_unfolding_all rfl
  ⟨ran, calculate_followsConfig _ _ _ _ _ _ _ ran⟩

/-- On a calendar whose working days are among the old one's, such as the old
one with holidays added, an item's plan keeps every order but its order date,
and that comes no later. -/
theorem calculateComponentMrp_worksWithin {calculator : MrpCalculator} {fewer : WorkCalendar}
    (within : fewer.WorksWithin calculator.calendar) (valid : fewer.HasWorkingWeekday)
    {floatLotSize : ℚ → ℚ} {componentId : String} {componentDemands : List Demand}
    {groupedSupplies : String → List Supply} {inventoryMap : String → Option Inventory}
    {timeBuckets : List Int} {uuid : Nat} {plannedOrders : List PlannedOrder}
    (planned : calculator.calculateComponentMrp floatLotSize componentId componentDemands
      groupedSupplies inventoryMap timeBuckets uuid = .ok plannedOrders) :
    ∃ heldOrders, { calculator with calendar := fewer }.calculateComponentMrp floatLotSize
        componentId componentDemands groupedSupplies inventoryMap timeBuckets uuid =
          .ok heldOrders ∧
      List.Forall₂ (fun held plannedOrder => { held with orderDate := plannedOrder.orderDate } =
        plannedOrder ∧ held.orderDate ≤ plannedOrder.orderDate) heldOrders plannedOrders := by
  unfold calculateComponentMrp at planned ⊢
  dsimp only
  split at planned
  · cases planned
  case h_2 =>
    split_ifs at planned ⊢
    · cases planned
      exact ⟨[], rfl, .nil⟩
    · obtain ⟨lines, placed, everyCalendar⟩ := LotSizingCalculator.apply_eq_placeOrders planned
      rw [everyCalendar]
      exact LotSizingCalculator.placeOrders_worksWithin within valid placed

/-- With Monday, day 4, made a holiday, the order for Tuesday, day 5, moves
from Monday back to Friday, day 1. -/
theorem calculateComponentMrp_worksWithin_mondayHoliday :
    (WorkCalendar.new.addHolidays [4]).WorksWithin (weekdayPlant 1).calendar ∧
      (WorkCalendar.new.addHolidays [4]).HasWorkingWeekday ∧
      (weekdayPlant 1).calculateComponentMrp (fun _ => 0) "X" [Demand.new 1 "X" 10 5 .salesOrder]
          (fun _ => []) (fun _ => none) [] 3 =
        .ok [PlannedOrder.new 3 "X" 10 5 4 .production] ∧
      ∃ heldOrders,
        { weekdayPlant 1 with calendar := WorkCalendar.new.addHolidays [4] }.calculateComponentMrp
            (fun _ => 0) "X" [Demand.new 1 "X" 10 5 .salesOrder] (fun _ => []) (fun _ => none) []
            3 = .ok heldOrders ∧
        List.Forall₂ (fun held plannedOrder => { held with orderDate := plannedOrder.orderDate } =
          plannedOrder ∧ held.orderDate ≤ plannedOrder.orderDate) heldOrders
          [PlannedOrder.new 3 "X" 10 5 4 .production] :=
  have within : (WorkCalendar.new.addHolidays [4]).WorksWithin (weekdayPlant 1).calendar :=
    WorkCalendar.worksWithin_addHolidays WorkCalendar.new [4]
  have valid : (WorkCalendar.new.addHolidays [4]).HasWorkingWeekday := ⟨0, by decide⟩
  have planned : (weekdayPlant 1).calculateComponentMrp (fun _ => 0) "X"
      [Demand.new 1 "X" 10 5 .salesOrder] (fun _ => []) (fun _ => none) [] 3 =
        .ok [PlannedOrder.new 3 "X" 10 5 4 .production] := by
    with_unfolding_all rfl
  ⟨within, valid, planned, calculateComponentMrp_worksWithin within valid planned⟩

/-! ## Orders are released in the order they are required -/

/-- Of two orders of one item, in plan order, the first is required strictly
earlier and released no later. -/
def ReleasedBefore (earlier later : PlannedOrder) : Prop :=
  earlier.requiredDate < later.requiredDate ∧ earlier.orderDate ≤ later.orderDate

instance : DecidableRel ReleasedBefore := fun _ _ => inferInstanceAs (Decidable (_ ∧ _))

/-- The orders collected so far of every item are released in the order they
are required. -/
def ItemsReleasedInOrder (state : KernelState) : Prop :=
  ∀ item, (state.allPlannedOrders.filter (·.componentId = item)).Pairwise ReleasedBefore

section

variable {calculator : MrpCalculator} {floatLotSize : ℚ → ℚ} {componentId : String}
  {componentDemands : List Demand} {groupedSupplies : String → List Supply}
  {inventoryMap : String → Option Inventory} {timeBuckets : List Int} {uuid : Nat}
  {plannedOrders : List PlannedOrder}

/-- `calculate_component_mrp` places at most one order on each date of the
item's time axis, in date order. -/
theorem calculateComponentMrp_requiredDates_sorted
    (planned : calculator.calculateComponentMrp floatLotSize componentId componentDemands
      groupedSupplies inventoryMap timeBuckets uuid = .ok plannedOrders) :
    (plannedOrders.map (·.requiredDate)).Sorted (· < ·) := by
  unfold calculateComponentMrp at planned
  split at planned
  · cases planned
  · split_ifs at planned
    · cases planned
      exact List.sorted_nil
    · obtain ⟨lines, placed, datesWithin⟩ := LotSizingCalculator.apply_ok planned
      rw [← (LotSizingCalculator.placeOrders_ok placed).1, List.map_map, componentNetRequirements,
        NettingCalculator.calculate, NettingCalculator.loop_dates] at datesWithin
      exact (sortedDates_sorted _).sublist datesWithin

/-- An item's plan is released in the order it is required: dating the orders
back by one lead time keeps their order. -/
theorem calculateComponentMrp_releasedInOrder
    (planned : calculator.calculateComponentMrp floatLotSize componentId componentDemands
      groupedSupplies inventoryMap timeBuckets uuid = .ok plannedOrders) :
    plannedOrders.Pairwise ReleasedBefore := by
  obtain ⟨config, -, -, -, each⟩ := calculateComponentMrp_ok planned
  refine (List.pairwise_map.mp (calculateComponentMrp_requiredDates_sorted planned)).imp_of_mem
    fun earlierMember laterMember before => ⟨before, ?_⟩
  exact calculator.calendar.subtractWorkingDays_mono before.le (each _ earlierMember).2
    (each _ laterMember).2

end

/-- Every iteration keeps each item's orders released in order: an item is
planned once, while no order of it exists, and its plan is in order. -/
theorem itemsReleasedInOrder_processComponent {calculator : MrpCalculator}
    {floatLotSize : ℚ → ℚ} {order : HashOrder} {inputs : LoopInputs} {state next : KernelState}
    {componentId : String} (keyed : OrdersKeyed state) (released : ItemsReleasedInOrder state)
    (stepped : calculator.processComponent floatLotSize order inputs state componentId =
      .ok next) :
    ItemsReleasedInOrder next := by
  rcases calculator.processComponent_ok floatLotSize order inputs stepped with
    ⟨-, rfl⟩ | ⟨-, -, rfl⟩ | ⟨fresh, plannedOrders, childDemands, calculated, -, rfl⟩
  · exact released
  · exact released
  · obtain ⟨_, -, -, -, each⟩ := calculateComponentMrp_ok calculated
    intro item
    rw [recordPlan_allPlannedOrders, List.filter_append, List.pairwise_append]
    refine ⟨released item, (calculateComponentMrp_releasedInOrder calculated).sublist
      (List.filter_sublist _), fun earlier earlierMember later laterMember => ?_⟩
    simp only [List.mem_filter, decide_eq_true_eq] at earlierMember laterMember
    have sameItem : earlier.componentId = componentId :=
      earlierMember.2.trans (laterMember.2.symm.trans (each later laterMember.1).1)
    exact absurd (sameItem ▸ keyed.ownersProcessed earlier earlierMember.1) fresh

/-- A run from the initial state releases every item's orders in order. -/
theorem runWorklist_itemsReleasedInOrder {calculator : MrpCalculator} {floatLotSize : ℚ → ℚ}
    {order : HashOrder} {inputs : LoopInputs} {fuel : Nat} {sortedComponents : List String}
    {uuid : Nat} {final : KernelState}
    (looped : calculator.runWorklist floatLotSize order inputs fuel
      (initialState sortedComponents uuid) = .ok final) :
    ItemsReleasedInOrder final :=
  (calculator.runWorklist_invariant floatLotSize order inputs
    (fun state => OrdersKeyed state ∧ ItemsReleasedInOrder state)
    (fun state _ rest _ holds _ stepped =>
      have poppedKeyed : OrdersKeyed
          { state with componentsToProcess := rest, iterations := state.iterations + 1 } :=
        ⟨holds.1.1, holds.1.2⟩
      ⟨ordersKeyed_processComponent poppedKeyed stepped,
        itemsReleasedInOrder_processComponent poppedKeyed holds.2 stepped⟩)
    ⟨⟨by simp [initialState], by simp [initialState]⟩, by simp [ItemsReleasedInOrder, initialState]⟩
    looped).2

/-- A run releases every item's orders in the order they are required: each
item's planned orders come in strictly increasing required dates, and their
order dates, dated back by the item's lead time, never decrease. -/
theorem calculate_releasedInOrder (calculator : MrpCalculator) (floatLotSize : ℚ → ℚ)
    (order : HashOrder) (demands : List Demand) (supplies : List Supply)
    (inventories : List Inventory) {result : MrpResult}
    (ran : calculator.calculate floatLotSize order demands supplies inventories = .ok result)
    (componentId : String) :
    (result.plannedOrders.filter (·.componentId = componentId)).Pairwise ReleasedBefore := by
  obtain ⟨final, looped, planned, -⟩ := calculate_ok ran
  rw [planned]
  exact runWorklist_itemsReleasedInOrder looped componentId

/-- Demands on Saturday and Sunday, days 2 and 3, made a working day ahead:
both orders are released on Friday, day 1. -/
theorem calculate_releasedInOrder_weekend :
    (weekdayPlant 1).calculate (fun _ => 0) .insertion
        [Demand.new 1 "X" 10 2 .salesOrder, Demand.new 2 "X" 5 3 .salesOrder] [] [] =
      .ok ⟨[PlannedOrder.new 3 "X" 10 2 1 .production, PlannedOrder.new 4 "X" 15 3 1 .production],
        [(3, [PeggingRecord.new 1 10 ["X"]]), (4, [PeggingRecord.new 2 5 ["X"]])]⟩ ∧
      ([PlannedOrder.new 3 "X" 10 2 1 .production,
          PlannedOrder.new 4 "X" 15 3 1 .production].filter (·.componentId = "X")).Pairwise
        ReleasedBefore :=
  have ran : (weekdayPlant 1).calculate (fun _ => 0) .insertion
      [Demand.new 1 "X" 10 2 .salesOrder, Demand.new 2 "X" 5 3 .salesOrder] [] [] =
        .ok ⟨[PlannedOrder.new 3 "X" 10 2 1 .production,
            PlannedOrder.new 4 "X" 15 3 1 .production],
          [(3, [PeggingRecord.new 1 10 ["X"]]), (4, [PeggingRecord.new 2 5 ["X"]])]⟩ := by
    with_unfolding_all rfl
  ⟨ran, calculate_releasedInOrder _ _ _ _ _ _ ran "X"⟩

end MrpCalculator

end NexusMrp
