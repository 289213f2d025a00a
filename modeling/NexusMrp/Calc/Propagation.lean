import NexusMrp.Calc.Worklist

/-!
# Dependent demands

`explode_bom` turns every order of an item into one dependent demand per BOM
edge out of the item, and the kernel appends them to the child's accumulated
dependent demands. At every iteration those are exactly the demands exploded
from the orders collected so far (`runWorklist_dependentDemandsRecorded`).
An item nets its accumulated demands when it is popped, and a processed item
is never planned again, so an item planned before one of its parents never
nets that parent's demands. `topological_sort` returns the grouped demands in
the order the map yields them rather than by BOM level, so whether a parent
comes first depends on the hash order.

Pegging runs over the input demands alone, and the orders of a run have
distinct ids, so each order is pegged the smaller of its quantity and the
input demands of its item due on its date (`calculate_pegging_total`).
-/

namespace NexusMrp

namespace MrpCalculator

/-- `demand` is the dependent demand `explode_bom` creates from an order of
`parentId` for the child at the end of `edge`: the order's quantity times the
quantity per, due on the order's start date, referring back to the order. -/
def ExplodedFrom (graph : BomGraph) (parentId : String) (plannedOrder : PlannedOrder)
    (edge : Nat × ℚ) (demand : Demand) : Prop :=
  graph.node edge.1 = some demand.componentId ∧
    demand.quantity = plannedOrder.quantity * edge.2 ∧
    demand.requiredDate = plannedOrder.orderDate ∧
    demand.demandType = .dependent ∧
    demand.sourceRef = some (parentId ++ ":" ++ toString plannedOrder.id)

/-- `demand` was exploded from `plannedOrder` through a BOM edge out of the
order's item. -/
def DependentOf (graph : BomGraph) (plannedOrder : PlannedOrder) (demand : Demand) : Prop :=
  ∃ parentNode, graph.findNode plannedOrder.componentId = some parentNode ∧
    ∃ edge ∈ graph.children parentNode,
      ExplodedFrom graph plannedOrder.componentId plannedOrder edge demand

/-! ## What `explode_bom` creates -/

section

variable {graph : BomGraph} {parentId : String}

theorem explodeOrder_exploded {plannedOrder : PlannedOrder} {uuid : Nat}
    {children : List (Nat × ℚ)} {childDemands : List Demand}
    (exploded : explodeOrder graph parentId plannedOrder uuid children = .ok childDemands) :
    (∀ demand ∈ childDemands, ∃ edge ∈ children,
      ExplodedFrom graph parentId plannedOrder edge demand) ∧
    ∀ edge ∈ children, ∃ demand ∈ childDemands,
      ExplodedFrom graph parentId plannedOrder edge demand := by
  induction children generalizing uuid childDemands with
  | nil => cases exploded; simp
  | cons child rest inductionHypothesis =>
      obtain ⟨childNodeIdx, quantityPer⟩ := child
      simp only [explodeOrder] at exploded
      cases found : graph.node childNodeIdx with
      | none => simp [found] at exploded
      | some childId =>
          simp only [found, Except.bind_eq_ok, pure, Except.pure, Except.ok.injEq] at exploded
          obtain ⟨others, othersOk, rfl⟩ := exploded
          have created : ExplodedFrom graph parentId plannedOrder (childNodeIdx, quantityPer)
              ((Demand.new uuid childId (plannedOrder.quantity * quantityPer)
                plannedOrder.orderDate .dependent).withSourceRef
                  (parentId ++ ":" ++ toString plannedOrder.id)) :=
            ⟨found, rfl, rfl, rfl, rfl⟩
          obtain ⟨sound, complete⟩ := inductionHypothesis othersOk
          refine ⟨fun demand member => ?_, fun edge member => ?_⟩
          · rcases List.mem_cons.mp member with rfl | later
            · exact ⟨_, List.mem_cons_self _ _, created⟩
            · obtain ⟨edge, edgeMember, origin⟩ := sound demand later
              exact ⟨edge, List.mem_cons_of_mem _ edgeMember, origin⟩
          · rcases List.mem_cons.mp member with rfl | later
            · exact ⟨_, List.mem_cons_self _ _, created⟩
            · obtain ⟨demand, demandMember, origin⟩ := complete edge later
              exact ⟨demand, List.mem_cons_of_mem _ demandMember, origin⟩

theorem explodeOrders_exploded {children : List (Nat × ℚ)} {uuid : Nat}
    {plannedOrders : List PlannedOrder} {childDemands : List Demand}
    (exploded : explodeOrders graph parentId children uuid plannedOrders = .ok childDemands) :
    (∀ demand ∈ childDemands, ∃ plannedOrder ∈ plannedOrders, ∃ edge ∈ children,
      ExplodedFrom graph parentId plannedOrder edge demand) ∧
    ∀ plannedOrder ∈ plannedOrders, ∀ edge ∈ children, ∃ demand ∈ childDemands,
      ExplodedFrom graph parentId plannedOrder edge demand := by
  induction plannedOrders generalizing uuid childDemands with
  | nil => cases exploded; simp
  | cons plannedOrder rest inductionHypothesis =>
      simp only [explodeOrders, Except.bind_eq_ok, pure, Except.pure, Except.ok.injEq]
        at exploded
      obtain ⟨first, firstOk, others, othersOk, rfl⟩ := exploded
      obtain ⟨firstSound, firstComplete⟩ := explodeOrder_exploded firstOk
      obtain ⟨restSound, restComplete⟩ := inductionHypothesis othersOk
      refine ⟨fun demand member => ?_, fun other member edge edgeMember => ?_⟩
      · rcases List.mem_append.mp member with here | later
        · obtain ⟨edge, edgeMember, origin⟩ := firstSound demand here
          exact ⟨plannedOrder, List.mem_cons_self _ _, edge, edgeMember, origin⟩
        · obtain ⟨other, otherMember, origin⟩ := restSound demand later
          exact ⟨other, List.mem_cons_of_mem _ otherMember, origin⟩
      · rcases List.mem_cons.mp member with rfl | later
        · obtain ⟨demand, demandMember, origin⟩ := firstComplete edge edgeMember
          exact ⟨demand, List.mem_append_left _ demandMember, origin⟩
        · obtain ⟨demand, demandMember, origin⟩ := restComplete other later edge edgeMember
          exact ⟨demand, List.mem_append_right _ demandMember, origin⟩

end

/-- `explode_bom` creates, for every order and every BOM edge out of the
parent, the dependent demand of that edge, and nothing else. -/
theorem explodeBom_exploded {calculator : MrpCalculator} {parentId : String}
    {plannedOrders : List PlannedOrder} {uuid : Nat} {childDemands : List Demand}
    (exploded : calculator.explodeBom parentId plannedOrders uuid = .ok childDemands) :
    (∀ demand ∈ childDemands, ∃ plannedOrder ∈ plannedOrders, ∃ parentNode,
      calculator.bomGraph.findNode parentId = some parentNode ∧
      ∃ edge ∈ calculator.bomGraph.children parentNode,
        ExplodedFrom calculator.bomGraph parentId plannedOrder edge demand) ∧
    ∀ plannedOrder ∈ plannedOrders, ∀ parentNode,
      calculator.bomGraph.findNode parentId = some parentNode →
      ∀ edge ∈ calculator.bomGraph.children parentNode, ∃ demand ∈ childDemands,
        ExplodedFrom calculator.bomGraph parentId plannedOrder edge demand := by
  unfold explodeBom at exploded
  split_ifs at exploded with noOrders
  · cases exploded; simp [noOrders]
  · cases found : calculator.bomGraph.findNode parentId with
    | none => simp only [found, pure, Except.pure] at exploded; cases exploded; simp
    | some parentNode =>
        simp only [found] at exploded
        split_ifs at exploded with noChildren
        · cases exploded; simp [noChildren]
        · obtain ⟨sound, complete⟩ := explodeOrders_exploded exploded
          refine ⟨fun demand member => ?_, fun plannedOrder member node same => ?_⟩
          · obtain ⟨plannedOrder, orderMember, edge, edgeMember, origin⟩ := sound demand member
            exact ⟨plannedOrder, orderMember, parentNode, rfl, edge, edgeMember, origin⟩
          · cases Option.some.inj same
            exact complete plannedOrder member

/-! ## Dependent demands along a run -/

/-- The dependent demands held for every item are exactly those exploded from
the orders collected: each was exploded from one of them for its item, and
every order and BOM edge out of its item has its demand held for the child. -/
structure DependentDemandsRecorded (graph : BomGraph) (state : KernelState) : Prop where
  sound : ∀ item, ∀ demand ∈ state.dependentDemands item, demand.componentId = item ∧
    ∃ plannedOrder ∈ state.allPlannedOrders, DependentOf graph plannedOrder demand
  complete : ∀ plannedOrder ∈ state.allPlannedOrders, ∀ parentNode,
    graph.findNode plannedOrder.componentId = some parentNode →
    ∀ edge ∈ graph.children parentNode, ∃ demand,
      ExplodedFrom graph plannedOrder.componentId plannedOrder edge demand ∧
      demand ∈ state.dependentDemands demand.componentId

/-- Every iteration keeps the dependent demands recorded: planning an item
appends its orders and, for each child, the demands exploded from them. -/
theorem dependentDemandsRecorded_step {calculator : MrpCalculator} {floatLotSize : ℚ → ℚ}
    {order : HashOrder} {inputs : LoopInputs} {state next : KernelState} {componentId : String}
    (stepped : calculator.processComponent floatLotSize order inputs state componentId =
      .ok next)
    (holds : DependentDemandsRecorded calculator.bomGraph state) :
    DependentDemandsRecorded calculator.bomGraph next := by
  rcases calculator.processComponent_ok floatLotSize order inputs stepped with
    ⟨-, rfl⟩ | ⟨-, -, rfl⟩ | ⟨-, plannedOrders, childDemands, calculated, exploded, rfl⟩
  · exact holds
  · exact ⟨holds.sound, holds.complete⟩
  · obtain ⟨_, -, -, -, each⟩ := calculateComponentMrp_ok calculated
    obtain ⟨explodedSound, explodedComplete⟩ := explodeBom_exploded exploded
    constructor
    · intro item demand member
      rw [recordPlan_dependentDemands] at member
      rw [recordPlan_allPlannedOrders]
      rcases List.mem_append.mp member with earlier | now
      · obtain ⟨same, plannedOrder, orderMember, origin⟩ := holds.sound item demand earlier
        exact ⟨same, plannedOrder, List.mem_append_left _ orderMember, origin⟩
      · simp only [groupDemandsByComponent, List.mem_filter, decide_eq_true_eq] at now
        obtain ⟨plannedOrder, orderMember, parentNode, found, edge, edgeMember, origin⟩ :=
          explodedSound demand now.1
        have owner := (each plannedOrder orderMember).1
        exact ⟨now.2, plannedOrder, List.mem_append_right _ orderMember, parentNode,
          owner ▸ found, edge, edgeMember, owner ▸ origin⟩
    · intro plannedOrder member parentNode found edge edgeMember
      rw [recordPlan_allPlannedOrders] at member
      rcases List.mem_append.mp member with earlier | now
      · obtain ⟨demand, origin, held⟩ :=
          holds.complete plannedOrder earlier parentNode found edge edgeMember
        refine ⟨demand, origin, ?_⟩
        rw [recordPlan_dependentDemands]
        exact List.mem_append_left _ held
      · have owner := (each plannedOrder now).1
        rw [owner] at found ⊢
        obtain ⟨demand, demandMember, origin⟩ :=
          explodedComplete plannedOrder now parentNode found edge edgeMember
        refine ⟨demand, origin, ?_⟩
        rw [recordPlan_dependentDemands]
        exact List.mem_append_right _ (by simp [groupDemandsByComponent, demandMember])

/-- Every state a run reaches holds exactly the dependent demands exploded
from the orders it has collected, so an item popped at that state nets its
independent demands and the demands of the parents planned before it. -/
theorem runWorklist_dependentDemandsRecorded (calculator : MrpCalculator)
    (floatLotSize : ℚ → ℚ) (order : HashOrder) (inputs : LoopInputs)
    (sortedComponents : List String) (uuid fuel : Nat) {final : KernelState}
    (ran : calculator.runWorklist floatLotSize order inputs fuel
      (initialState sortedComponents uuid) = .ok final) :
    DependentDemandsRecorded calculator.bomGraph final :=
  calculator.runWorklist_invariant floatLotSize order inputs
    (DependentDemandsRecorded calculator.bomGraph)
    (fun _ _ _ _ holds _ stepped => dependentDemandsRecorded_step stepped ⟨holds.1, holds.2⟩)
    ⟨by simp [initialState], by simp [initialState]⟩ ran

/-- A plant where `A` needs one `B`, lot-for-lot with no lead time, on a
calendar where every day works. -/
def assemblyPlant : MrpCalculator :=
  { bomGraph := ⟨["A", "B"], [(0, 1, 1)]⟩, configs := fun _ => some (MrpConfig.new 0 .make),
    calendar := WorkCalendar.new247 }

/-- Demand for 10 `A` and 5 `B`, both due on day 5. -/
def assemblyDemands : List Demand :=
  [Demand.new 1 "A" 10 5 .salesOrder, Demand.new 2 "B" 5 5 .salesOrder]

/-- When the map yields `B` before `A`, `B` is planned from its own demand
alone; the demand for 10 `B` exploded from `A`'s order is recorded after `B`
is done and never netted. -/
theorem runWorklist_child_first_drops_dependent :
    (assemblyPlant.runWorklist (fun _ => 0) .reversed (loopInputs assemblyDemands [] [])
        (assemblyPlant.worklistFuel assemblyDemands)
        (initialState (topologicalSort .reversed assemblyDemands)
          (firstFreshUuid assemblyDemands))).toOption.map
      (fun final => (final.plannedComponents,
        final.allPlannedOrders.map fun plannedOrder =>
          (plannedOrder.componentId, plannedOrder.quantity),
        (final.dependentDemands "B").map (·.quantity))) =
      some (["B", "A"], [("B", 5), ("A", 10)], [10]) := by
  with_unfolding_all decide

/-- The plan depends on the order the map yields the items in: `B` gets 15
when `A` comes first and 5 when `B` does. -/
theorem calculate_depends_on_hashOrder :
    (assemblyPlant.calculate (fun _ => 0) .insertion assemblyDemands [] []).toOption.map
        (·.plannedOrders.map fun plannedOrder =>
          (plannedOrder.componentId, plannedOrder.quantity)) =
      some [("A", 10), ("B", 15)] ∧
    (assemblyPlant.calculate (fun _ => 0) .reversed assemblyDemands [] []).toOption.map
        (·.plannedOrders.map fun plannedOrder =>
          (plannedOrder.componentId, plannedOrder.quantity)) =
      some [("B", 5), ("A", 10)] := by
  constructor <;> with_unfolding_all decide

/-! ## Pegging -/

/-- `B` is planned only for the dependent demand from `A`'s order, and its
order gets no pegging record. -/
theorem calculate_dependent_order_unpegged :
    assemblyPlant.calculate (fun _ => 0) .insertion [Demand.new 1 "A" 10 5 .salesOrder] [] [] =
      .ok ⟨[PlannedOrder.new 2 "A" 10 5 5 .production, PlannedOrder.new 4 "B" 10 5 5 .production],
        [(2, [PeggingRecord.new 1 10 ["A"]]), (4, [])]⟩ := by
  with_unfolding_all rfl

end MrpCalculator

end NexusMrp
