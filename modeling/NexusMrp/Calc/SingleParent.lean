import NexusMrp.Calc.ItemPlans

/-!
# Dependent demand reaches every child of a single-parent BOM

An item nets the dependent demands it holds when it is popped, and a demand
recorded for it after that is never netted, so in general a child planned
before one of its parents misses that parent's demand. On a BOM where every
item is the child of at most one item and the items with independent demand
are no item's child, that cannot happen: an item without independent demand
is reached only through its parent's orders, so its parent is processed before
it (`WorklistInvariant.parent_processed`) and is never planned again. No
demand is then recorded for an item once it is processed, so every processed
item's plan nets exactly the dependent demands it holds at the end of the run
(`runWorklist_plansFrozen`).
-/

namespace NexusMrp

namespace MrpCalculator

/-- A BOM where every item is the child of at most one item. -/
def SingleParent (graph : BomGraph) : Prop :=
  ∀ item parent other, item ∈ childItems graph parent → item ∈ childItems graph other →
    parent = other

/-- The items with independent demand are no item's child. -/
def DemandsAtRoots (graph : BomGraph) (demands : List Demand) : Prop :=
  ∀ item ∈ componentKeys demands, ∀ parent, item ∉ childItems graph parent

/-- Every processed item's orders are what `calculate_component_mrp` plans
from its independent demands and the dependent demands it now holds, or none
when it holds no demands. -/
def PlansFrozen (calculator : MrpCalculator) (floatLotSize : ℚ → ℚ) (inputs : LoopInputs)
    (state : KernelState) : Prop :=
  ∀ componentId ∈ state.processedComponents,
    inputs.groupedDemands componentId ++ state.dependentDemands componentId = [] ∧
        state.allPlannedOrders.filter (·.componentId = componentId) = [] ∨
      ∃ uuid, calculator.calculateComponentMrp floatLotSize componentId
          (inputs.groupedDemands componentId ++ state.dependentDemands componentId)
          inputs.groupedSupplies inputs.inventoryMap inputs.timeBuckets uuid =
        .ok (state.allPlannedOrders.filter (·.componentId = componentId))

/-- An item's children are the nodes its BOM edges lead to. -/
theorem mem_childItems {graph : BomGraph} {parentId childId : String} :
    childId ∈ childItems graph parentId ↔ ∃ parentNode,
      graph.findNode parentId = some parentNode ∧
      ∃ edge ∈ graph.children parentNode, graph.node edge.1 = some childId := by
  unfold childItems
  split <;> simp_all [List.mem_filterMap]

/-- On a single-parent BOM with independent demand only at its roots, the
parent of every queued or processed item is processed: the item was reached
through its parent's orders. -/
theorem WorklistInvariant.parent_processed {graph : BomGraph} {demands : List Demand}
    {state : KernelState} (holds : WorklistInvariant graph demands state)
    (singleParent : SingleParent graph) (atRoots : DemandsAtRoots graph demands)
    {item parent : String}
    (visited : item ∈ state.componentsToProcess ∨ item ∈ state.processedComponents)
    (child : item ∈ childItems graph parent) : parent ∈ state.processedComponents := by
  rcases (holds.visited item).mp visited with demanded | ⟨other, ⟨plannedOrder, member, owner⟩,
    otherChild⟩
  · exact absurd child (atRoots item demanded parent)
  · rw [singleParent item parent other child otherChild, ← owner]
    exact holds.plannedProcessed _ (holds.ordersPlanned plannedOrder member)

/-- An unprocessed item has no collected orders. -/
theorem WorklistInvariant.filter_owner_eq_nil {graph : BomGraph} {demands : List Demand}
    {state : KernelState} (holds : WorklistInvariant graph demands state)
    {componentId : String} (fresh : componentId ∉ state.processedComponents) :
    state.allPlannedOrders.filter (·.componentId = componentId) = [] :=
  List.filter_eq_nil_iff.mpr fun plannedOrder member same =>
    holds.no_orders_of_not_processed fresh plannedOrder member (of_decide_eq_true same)

section

variable {calculator : MrpCalculator} {floatLotSize : ℚ → ℚ} {order : HashOrder}
  {inputs : LoopInputs} {demands : List Demand}

/-- Every iteration keeps each processed item's plan on the dependent demands
it holds: the item planned now feeds only its children, which are neither
processed nor itself, since their parent was not processed. -/
theorem plansFrozen_step (singleParent : SingleParent calculator.bomGraph)
    (atRoots : DemandsAtRoots calculator.bomGraph demands) {state next : KernelState}
    {componentId : String} {rest : List String}
    (holds : WorklistInvariant calculator.bomGraph demands state)
    (frozen : PlansFrozen calculator floatLotSize inputs state)
    (popped : state.componentsToProcess = componentId :: rest)
    (stepped : calculator.processComponent floatLotSize order inputs
      { state with componentsToProcess := rest, iterations := state.iterations + 1 }
      componentId = .ok next) :
    PlansFrozen calculator floatLotSize inputs next := by
  rcases calculator.processComponent_ok floatLotSize order inputs stepped with
    ⟨-, rfl⟩ | ⟨fresh, noDemands, rfl⟩ |
      ⟨fresh, plannedOrders, childDemands, calculated, exploded, rfl⟩
  · exact frozen
  · intro item member
    rcases List.mem_cons.mp member with rfl | earlier
    · exact .inl ⟨noDemands, holds.filter_owner_eq_nil fresh⟩
    · exact frozen item earlier
  · obtain ⟨_, -, -, -, each⟩ := calculateComponentMrp_ok calculated
    have unfed : ∀ item, item = componentId ∨ item ∈ state.processedComponents →
        groupDemandsByComponent childDemands item = [] := fun item visited =>
      List.filter_eq_nil_iff.mpr fun demand member same => by
        have keyed : item ∈ componentKeys childDemands :=
          List.mem_dedup.mpr (List.mem_map.mpr ⟨demand, member, of_decide_eq_true same⟩)
        refine fresh (holds.parent_processed singleParent atRoots ?_
          ((explodeBom_ok exploded item).mp keyed).2)
        rcases visited with rfl | done
        · exact .inl (popped ▸ List.mem_cons_self _ _)
        · exact .inr done
    have owned := fun plannedOrder member => (each plannedOrder member).1
    intro item member
    rw [recordPlan_processedComponents] at member
    rw [recordPlan_dependentDemands, recordPlan_allPlannedOrders,
      unfed item (List.mem_cons.mp member), List.append_nil]
    by_cases same : item = componentId
    · subst same
      exact .inr ⟨state.nextUuid, by
        rw [filter_append_owned (holds.filter_owner_eq_nil fresh) owned]
        exact calculated⟩
    · rw [filter_append_owned_of_ne owned same]
      exact frozen item ((List.mem_cons.mp member).resolve_left same)

/-- A run of the loop `calculate` starts keeps the worklist invariant and each
processed item's plan on the dependent demands it holds. -/
theorem runWorklist_plansFrozen (singleParent : SingleParent calculator.bomGraph)
    (atRoots : DemandsAtRoots calculator.bomGraph demands) {fuel uuid : Nat}
    {final : KernelState}
    (looped : calculator.runWorklist floatLotSize order inputs fuel
      (initialState (topologicalSort order demands) uuid) = .ok final) :
    WorklistInvariant calculator.bomGraph demands final ∧
      PlansFrozen calculator floatLotSize inputs final :=
  calculator.runWorklist_invariant floatLotSize order inputs
    (fun state => WorklistInvariant calculator.bomGraph demands state ∧
      PlansFrozen calculator floatLotSize inputs state)
    (fun _ _ _ _ holds popped stepped =>
      ⟨worklistInvariant_step holds.1 popped stepped,
        plansFrozen_step singleParent atRoots holds.1 holds.2 popped stepped⟩)
    ⟨worklistInvariant_initialState _ order demands uuid, by simp [PlansFrozen, initialState]⟩
    looped

end

/-- The bike plant's only BOM edge makes frames for bikes, and only bikes are
demanded. -/
theorem childItems_bikePlant {item parent : String}
    (child : item ∈ childItems bikePlant.bomGraph parent) : parent = "BIKE" ∧ item = "FRAME" := by
  obtain ⟨parentNode, found, edge, edgeMember, node⟩ := mem_childItems.mp child
  simp only [bikePlant, BomGraph.children, List.mem_map, List.mem_filter] at edgeMember
  obtain ⟨_, ⟨edgeIn, firstIs⟩, rfl⟩ := edgeMember
  simp only [List.mem_singleton] at edgeIn
  subst edgeIn
  simp only [decide_eq_true_eq] at firstIs
  subst firstIs
  simp only [bikePlant, BomGraph.findNode, List.indexOf?, BomGraph.node] at found node
  simp [List.findIdx?_cons] at found node
  exact ⟨found.symm, node.symm⟩

/-- The bike plant's BOM is a single-parent one. -/
theorem bikePlant_singleParent : SingleParent bikePlant.bomGraph :=
  fun _ _ _ child otherChild =>
    (childItems_bikePlant child).1.trans (childItems_bikePlant otherChild).1.symm

end MrpCalculator

end NexusMrp
