import NexusMrp.Calc.SingleParent

/-!
# Plans that do not depend on the hash order

The order `calculate` processes items in depends on the hash order
(`calculate_depends_on_hashOrder`), but netting and lot sizing read of a demand
only its item, date and quantity, and the uuid a plan starts from only numbers
its orders (`calculateComponentMrp_eraseId`). On a single-parent BOM with
independent demand only at its roots every item is then given the same orders,
up to identifiers, under every hash order (`calculate_plans_hashOrder_invariant`),
and a run that succeeds under one hash order succeeds under every other
(`calculate_succeeds_under_every_hashOrder`).
-/

namespace NexusMrp

/-- What netting and lot sizing read of a demand: its item, date and
quantity. -/
def Demand.terms (demand : Demand) : String × Int × ℚ :=
  (demand.componentId, demand.requiredDate, demand.quantity)

namespace NettingCalculator

theorem grossRequirementOn_terms (demands : List Demand) (date : Int) :
    grossRequirementOn demands date =
      (((demands.map Demand.terms).filter (·.2.1 = date)).map (·.2.2)).sum := by
  rw [List.filter_map, List.map_map]
  rfl

/-- Netting reads the demands only through their terms. -/
theorem loop_congr {demands others : List Demand}
    (same : demands.map Demand.terms = others.map Demand.terms) (supplies : List Supply)
    (safetyStock : ℚ) (allowNegativeInventory : Bool) (currentInventory : ℚ)
    (dates : List Int) :
    loop demands supplies safetyStock allowNegativeInventory currentInventory dates =
      loop others supplies safetyStock allowNegativeInventory currentInventory dates := by
  induction dates generalizing currentInventory with
  | nil => rfl
  | cons date rest inductionHypothesis =>
      simp only [loop, netRow, grossRequirementOn_terms, same, inductionHypothesis]

end NettingCalculator

namespace LotSizingCalculator

section

variable {componentId : String} {config : MrpConfig} {calendar : WorkCalendar}

/-- Lines placed from one identifier are placed from any other, with the same
orders up to their identifiers. -/
theorem placeOrders_renumber {uuid : Nat} {lines : List (Int × ℚ)} {orders : List PlannedOrder}
    (placed : placeOrders componentId config calendar uuid lines = .ok orders)
    (otherUuid : Nat) :
    ∃ others, placeOrders componentId config calendar otherUuid lines = .ok others ∧
      orders.map PlannedOrder.eraseId = others.map PlannedOrder.eraseId := by
  induction lines generalizing uuid otherUuid orders with
  | nil => cases placed; exact ⟨[], rfl, rfl⟩
  | cons line rest inductionHypothesis =>
      obtain ⟨requiredDate, quantity⟩ := line
      simp only [placeOrders] at placed
      cases dated : calendar.subtractWorkingDays requiredDate config.leadTimeDays with
      | none => simp [dated] at placed
      | some orderDate =>
          simp only [dated, Except.bind_eq_ok, pure, Except.pure, Except.ok.injEq] at placed
          obtain ⟨placedRest, restOk, rfl⟩ := placed
          obtain ⟨others, othersOk, same⟩ := inductionHypothesis restOk (otherUuid + 1)
          refine ⟨PlannedOrder.new otherUuid componentId quantity requiredDate orderDate
            (determineOrderType config.procurementType) :: others, ?_, ?_⟩
          · simp only [placeOrders, dated, othersOk]
            rfl
          · simp [PlannedOrder.new, PlannedOrder.eraseId, same]

/-- Every rule computes its lines without the uuid, so a plan that returns
returns from any other uuid, with the same orders up to their identifiers. -/
theorem apply_renumber {floatLotSize : ℚ → ℚ} {rows : List NetRequirement} {uuid : Nat}
    {orders : List PlannedOrder}
    (applied : apply floatLotSize componentId rows config calendar uuid = .ok orders)
    (otherUuid : Nat) :
    ∃ others, apply floatLotSize componentId rows config calendar otherUuid = .ok others ∧
      orders.map PlannedOrder.eraseId = others.map PlannedOrder.eraseId := by
  cases rule : config.lotSizingRule <;>
    simp only [apply, rule, lotForLot, periodOrderQuantity, minMax, fixedOrderQuantity,
      economicOrderQuantity] at applied ⊢
  case fixedOrderQuantity =>
    cases lot : config.fixedLotSize <;> simp only [lot] at applied ⊢
    · cases applied
    · obtain ⟨lines, decided, placed⟩ := Except.bind_eq_ok.mp applied
      rw [decided]
      exact placeOrders_renumber placed otherUuid
  case economicOrderQuantity =>
    obtain ⟨lines, decided, placed⟩ := Except.bind_eq_ok.mp applied
    rw [decided]
    exact placeOrders_renumber placed otherUuid
  all_goals exact placeOrders_renumber applied otherUuid

end

end LotSizingCalculator

namespace MrpCalculator

/-- An item's net requirements read its demands only through their terms. -/
theorem componentNetRequirements_congr {demands others : List Demand}
    (same : demands.map Demand.terms = others.map Demand.terms) (config : MrpConfig)
    (supplies : List Supply) (initialInventory : ℚ) (timeBuckets : List Int) :
    componentNetRequirements config demands supplies initialInventory timeBuckets =
      componentNetRequirements config others supplies initialInventory timeBuckets := by
  have dates : demands.map (·.requiredDate) = others.map (·.requiredDate) := by
    simpa [Demand.terms, Function.comp_def] using congrArg (List.map (·.2.1)) same
  simp only [componentNetRequirements, NettingCalculator.calculate, createComponentTimeBuckets,
    eventDates, dates, NettingCalculator.loop_congr same]

/-- A plan of an item that returns returns from demands with the same terms
and from any other uuid, with the same orders up to their identifiers. -/
theorem calculateComponentMrp_renumber {calculator : MrpCalculator} {floatLotSize : ℚ → ℚ}
    {componentId : String} {demands others : List Demand}
    {groupedSupplies : String → List Supply} {inventoryMap : String → Option Inventory}
    {timeBuckets : List Int} {uuid : Nat} {orders : List PlannedOrder}
    (same : demands.map Demand.terms = others.map Demand.terms)
    (planned : calculator.calculateComponentMrp floatLotSize componentId demands
      groupedSupplies inventoryMap timeBuckets uuid = .ok orders) (otherUuid : Nat) :
    ∃ otherOrders, calculator.calculateComponentMrp floatLotSize componentId others
        groupedSupplies inventoryMap timeBuckets otherUuid = .ok otherOrders ∧
      orders.map PlannedOrder.eraseId = otherOrders.map PlannedOrder.eraseId := by
  rw [calculateComponentMrp] at planned ⊢
  cases configured : calculator.configs componentId with
  | none => simp [configured] at planned
  | some config =>
      simp only [configured, componentNetRequirements_congr same] at planned ⊢
      split_ifs at planned ⊢
      · cases planned
        exact ⟨[], rfl, rfl⟩
      · exact LotSizingCalculator.apply_renumber planned otherUuid

/-- Two plans of an item from demands with the same terms, from any two
uuids, give the same orders up to their identifiers. -/
theorem calculateComponentMrp_eraseId {calculator : MrpCalculator} {floatLotSize : ℚ → ℚ}
    {componentId : String} {demands others : List Demand}
    {groupedSupplies : String → List Supply} {inventoryMap : String → Option Inventory}
    {timeBuckets : List Int} {uuid otherUuid : Nat} {orders otherOrders : List PlannedOrder}
    (same : demands.map Demand.terms = others.map Demand.terms)
    (planned : calculator.calculateComponentMrp floatLotSize componentId demands
      groupedSupplies inventoryMap timeBuckets uuid = .ok orders)
    (otherPlanned : calculator.calculateComponentMrp floatLotSize componentId others
      groupedSupplies inventoryMap timeBuckets otherUuid = .ok otherOrders) :
    orders.map PlannedOrder.eraseId = otherOrders.map PlannedOrder.eraseId := by
  obtain ⟨_, renumbered, same⟩ := calculateComponentMrp_renumber same planned otherUuid
  rw [otherPlanned, Except.ok.injEq] at renumbered
  rw [renumbered]
  exact same

/-! ## What a parent's orders explode to -/

section

variable {graph : BomGraph} {parentId : String}

/-- The terms of the demands one order explodes to: one per child edge, for
the child's item, on the order's date, for the order's quantity times the
edge's. -/
theorem explodeOrder_terms {plannedOrder : PlannedOrder} {uuid : Nat}
    {children : List (Nat × ℚ)} {childDemands : List Demand}
    (exploded : explodeOrder graph parentId plannedOrder uuid children = .ok childDemands) :
    childDemands.map Demand.terms = children.filterMap fun edge =>
      (graph.node edge.1).map fun childId =>
        (childId, plannedOrder.orderDate, plannedOrder.quantity * edge.2) := by
  induction children generalizing uuid childDemands with
  | nil => cases exploded; rfl
  | cons child rest inductionHypothesis =>
      obtain ⟨childNodeIdx, quantityPer⟩ := child
      simp only [explodeOrder] at exploded
      cases found : graph.node childNodeIdx with
      | none => simp [found] at exploded
      | some childId =>
          simp only [found, Except.bind_eq_ok, pure, Except.pure, Except.ok.injEq] at exploded
          obtain ⟨others, othersOk, rfl⟩ := exploded
          simp [List.filterMap_cons, found, inductionHypothesis othersOk, Demand.withSourceRef,
            Demand.new, Demand.terms]

/-- An order that explodes explodes under any other order and uuid: only the
child nodes are looked up. -/
theorem explodeOrder_returns {plannedOrder : PlannedOrder} {uuid : Nat}
    {children : List (Nat × ℚ)} {childDemands : List Demand}
    (exploded : explodeOrder graph parentId plannedOrder uuid children = .ok childDemands)
    (other : PlannedOrder) (otherUuid : Nat) :
    ∃ otherDemands, explodeOrder graph parentId other otherUuid children = .ok otherDemands := by
  induction children generalizing uuid otherUuid childDemands with
  | nil => exact ⟨[], rfl⟩
  | cons child rest inductionHypothesis =>
      obtain ⟨childNodeIdx, quantityPer⟩ := child
      simp only [explodeOrder] at exploded ⊢
      cases found : graph.node childNodeIdx with
      | none => simp [found] at exploded
      | some childId =>
          simp only [found, Except.bind_eq_ok, pure, Except.pure, Except.ok.injEq] at exploded
          obtain ⟨others, othersOk, rfl⟩ := exploded
          obtain ⟨otherRest, otherRestOk⟩ := inductionHypothesis othersOk (otherUuid + 1)
          exact ⟨_, by simp only [otherRestOk]; rfl⟩

theorem explodeOrders_renumber {children : List (Nat × ℚ)} {uuid : Nat}
    {plannedOrders others : List PlannedOrder} {childDemands : List Demand}
    (same : plannedOrders.map PlannedOrder.eraseId = others.map PlannedOrder.eraseId)
    (exploded : explodeOrders graph parentId children uuid plannedOrders = .ok childDemands)
    (otherUuid : Nat) :
    ∃ otherDemands, explodeOrders graph parentId children otherUuid others = .ok otherDemands ∧
      childDemands.map Demand.terms = otherDemands.map Demand.terms := by
  induction plannedOrders generalizing others uuid otherUuid childDemands with
  | nil =>
      cases List.map_eq_nil_iff.mp same.symm
      cases exploded
      exact ⟨[], rfl, rfl⟩
  | cons plannedOrder rest inductionHypothesis =>
      obtain ⟨other, otherRest, rfl, erased, restSame⟩ := List.map_eq_cons_iff.mp same.symm
      simp only [explodeOrders, Except.bind_eq_ok, pure, Except.pure, Except.ok.injEq]
        at exploded
      obtain ⟨first, firstOk, following, followingOk, rfl⟩ := exploded
      obtain ⟨otherFirst, otherFirstOk⟩ := explodeOrder_returns firstOk other otherUuid
      obtain ⟨otherFollowing, otherFollowingOk, followingSame⟩ :=
        inductionHypothesis restSame.symm followingOk (otherUuid + children.length)
      have quantity : other.quantity = plannedOrder.quantity :=
        (congrArg PlannedOrder.quantity erased :)
      have orderDate : other.orderDate = plannedOrder.orderDate :=
        (congrArg PlannedOrder.orderDate erased :)
      refine ⟨otherFirst ++ otherFollowing, ?_, ?_⟩
      · simp only [explodeOrders, otherFirstOk, otherFollowingOk]
        rfl
      · rw [List.map_append, List.map_append, explodeOrder_terms firstOk,
          explodeOrder_terms otherFirstOk, quantity, orderDate, followingSame]

end

/-- Orders that explode explode, as orders with the same terms up to
identifiers and from any uuid, to demands with the same terms. -/
theorem explodeBom_renumber {calculator : MrpCalculator} {parentId : String}
    {plannedOrders others : List PlannedOrder} {uuid : Nat} {childDemands : List Demand}
    (same : plannedOrders.map PlannedOrder.eraseId = others.map PlannedOrder.eraseId)
    (exploded : calculator.explodeBom parentId plannedOrders uuid = .ok childDemands)
    (otherUuid : Nat) :
    ∃ otherDemands, calculator.explodeBom parentId others otherUuid = .ok otherDemands ∧
      childDemands.map Demand.terms = otherDemands.map Demand.terms := by
  have lengths : plannedOrders.length = others.length := by
    simpa using congrArg List.length same
  have empty : plannedOrders = [] ↔ others = [] := by
    rw [← List.length_eq_zero, lengths, List.length_eq_zero]
  unfold explodeBom at exploded ⊢
  by_cases noOrders : plannedOrders = []
  · rw [if_pos noOrders] at exploded
    rw [if_pos (empty.mp noOrders)]
    cases exploded
    exact ⟨[], rfl, rfl⟩
  · rw [if_neg noOrders] at exploded
    rw [if_neg (mt empty.mpr noOrders)]
    cases found : calculator.bomGraph.findNode parentId with
    | none =>
        simp only [found, pure, Except.pure] at exploded ⊢
        cases exploded
        exact ⟨[], rfl, rfl⟩
    | some parentNode =>
        simp only [found] at exploded ⊢
        split_ifs at exploded ⊢
        · cases exploded
          exact ⟨[], rfl, rfl⟩
        · exact explodeOrders_renumber same exploded otherUuid

/-- Orders with the same terms up to identifiers explode, from any uuids, to
demands with the same terms. -/
theorem explodeBom_terms {calculator : MrpCalculator} {parentId : String}
    {plannedOrders others : List PlannedOrder} {uuid otherUuid : Nat}
    {childDemands otherDemands : List Demand}
    (same : plannedOrders.map PlannedOrder.eraseId = others.map PlannedOrder.eraseId)
    (exploded : calculator.explodeBom parentId plannedOrders uuid = .ok childDemands)
    (otherExploded : calculator.explodeBom parentId others otherUuid = .ok otherDemands) :
    childDemands.map Demand.terms = otherDemands.map Demand.terms := by
  obtain ⟨_, renumbered, same⟩ := explodeBom_renumber same exploded otherUuid
  rw [otherExploded, Except.ok.injEq] at renumbered
  rw [renumbered]
  exact same

/-- Grouping demands by item keeps equal terms equal. -/
theorem groupDemandsByComponent_terms {demands others : List Demand}
    (same : demands.map Demand.terms = others.map Demand.terms) (componentId : String) :
    (groupDemandsByComponent demands componentId).map Demand.terms =
      (groupDemandsByComponent others componentId).map Demand.terms := by
  have grouped : ∀ demands : List Demand,
      (groupDemandsByComponent demands componentId).map Demand.terms =
        (demands.map Demand.terms).filter (·.1 = componentId) := fun demands => by
    rw [List.filter_map]
    rfl
  rw [grouped, grouped, same]

theorem explodeBom_nil (calculator : MrpCalculator) (parentId : String) (uuid : Nat) :
    calculator.explodeBom parentId [] uuid = .ok [] :=
  rfl

/-- An item that is not a child of the exploded item receives none of its
demands. -/
theorem groupDemandsByComponent_eq_nil_of_not_child {calculator : MrpCalculator}
    {parentId : String} {plannedOrders : List PlannedOrder} {uuid : Nat}
    {childDemands : List Demand}
    (exploded : calculator.explodeBom parentId plannedOrders uuid = .ok childDemands)
    {item : String} (notChild : item ∉ childItems calculator.bomGraph parentId) :
    groupDemandsByComponent childDemands item = [] :=
  List.filter_eq_nil_iff.mpr fun demand member same => notChild
    ((explodeBom_ok exploded item).mp
      (List.mem_dedup.mpr (List.mem_map.mpr ⟨demand, member, of_decide_eq_true same⟩))).2

/-! ## Dependent demand on a single-parent BOM -/

/-- The dependent demands of a run on a single-parent BOM: an item that is no
item's child holds none, and a child holds what its parent's collected orders
explode to. -/
structure DependentDemandsExploded (calculator : MrpCalculator) (state : KernelState) :
    Prop where
  orphan : ∀ item, (∀ parent, item ∉ childItems calculator.bomGraph parent) →
    state.dependentDemands item = []
  child : ∀ item parent, item ∈ childItems calculator.bomGraph parent →
    ∃ uuid childDemands, calculator.explodeBom parent
        (state.allPlannedOrders.filter (·.componentId = parent)) uuid = .ok childDemands ∧
      state.dependentDemands item = groupDemandsByComponent childDemands item

/-- Every processed item's collected orders explode without failure. -/
def ExplosionsSucceed (calculator : MrpCalculator) (state : KernelState) : Prop :=
  ∀ componentId ∈ state.processedComponents, ∃ uuid childDemands,
    calculator.explodeBom componentId
      (state.allPlannedOrders.filter (·.componentId = componentId)) uuid = .ok childDemands

section

variable {calculator : MrpCalculator} {floatLotSize : ℚ → ℚ} {order : HashOrder}
  {inputs : LoopInputs} {demands : List Demand}

theorem dependentDemandsExploded_initialState (sortedComponents : List String) (uuid : Nat) :
    DependentDemandsExploded calculator (initialState sortedComponents uuid) :=
  ⟨fun _ _ => rfl, fun _ parent _ => ⟨0, [], explodeBom_nil calculator parent 0, rfl⟩⟩

/-- Planning an item feeds exactly its children, whose only parent it is, and
they held nothing before: the item had no orders. -/
theorem dependentDemandsExploded_step (singleParent : SingleParent calculator.bomGraph)
    {state next : KernelState} {componentId : String} {rest : List String}
    (holds : WorklistInvariant calculator.bomGraph demands state)
    (exploded : DependentDemandsExploded calculator state)
    (stepped : calculator.processComponent floatLotSize order inputs
      { state with componentsToProcess := rest, iterations := state.iterations + 1 }
      componentId = .ok next) :
    DependentDemandsExploded calculator next := by
  rcases calculator.processComponent_ok floatLotSize order inputs stepped with
    ⟨-, rfl⟩ | ⟨-, -, rfl⟩ |
      ⟨fresh, plannedOrders, childDemands, calculated, explodedNow, rfl⟩
  · exact ⟨exploded.orphan, exploded.child⟩
  · exact ⟨exploded.orphan, exploded.child⟩
  · obtain ⟨_, -, -, -, each⟩ := calculateComponentMrp_ok calculated
    have owned := fun plannedOrder member => (each plannedOrder member).1
    constructor
    · intro item orphan
      rw [recordPlan_dependentDemands, exploded.orphan item orphan,
        groupDemandsByComponent_eq_nil_of_not_child explodedNow (orphan componentId)]
      rfl
    · intro item parent child
      rw [recordPlan_dependentDemands, recordPlan_allPlannedOrders]
      by_cases same : parent = componentId
      · subst same
        obtain ⟨uuid, held, heldExploded, heldEq⟩ := exploded.child item parent child
        rw [holds.filter_owner_eq_nil fresh] at heldExploded
        cases Except.ok.inj ((explodeBom_nil calculator parent uuid).symm.trans heldExploded)
        refine ⟨state.nextUuid + plannedOrders.length, childDemands, ?_, ?_⟩
        · rw [filter_append_owned (holds.filter_owner_eq_nil fresh) owned]
          exact explodedNow
        · rw [heldEq]
          rfl
      · rw [filter_append_owned_of_ne owned same, groupDemandsByComponent_eq_nil_of_not_child
          explodedNow (fun fed => same (singleParent item parent componentId child fed)),
          List.append_nil]
        exact exploded.child item parent child

/-- Every iteration keeps every processed item's orders exploding: a marked
item has none, and a planned one has the orders it just exploded. -/
theorem explosionsSucceed_step {state next : KernelState} {componentId : String}
    {rest : List String} (holds : WorklistInvariant calculator.bomGraph demands state)
    (succeed : ExplosionsSucceed calculator state)
    (stepped : calculator.processComponent floatLotSize order inputs
      { state with componentsToProcess := rest, iterations := state.iterations + 1 }
      componentId = .ok next) :
    ExplosionsSucceed calculator next := by
  rcases calculator.processComponent_ok floatLotSize order inputs stepped with
    ⟨-, rfl⟩ | ⟨fresh, -, rfl⟩ |
      ⟨fresh, plannedOrders, childDemands, calculated, explodedNow, rfl⟩
  · exact succeed
  · intro item member
    rcases List.mem_cons.mp member with rfl | earlier
    · exact ⟨0, [], by rw [holds.filter_owner_eq_nil fresh]; rfl⟩
    · exact succeed item earlier
  · obtain ⟨_, -, -, -, each⟩ := calculateComponentMrp_ok calculated
    have owned := fun plannedOrder member => (each plannedOrder member).1
    intro item member
    rw [recordPlan_processedComponents] at member
    rw [recordPlan_allPlannedOrders]
    by_cases same : item = componentId
    · subst same
      rw [filter_append_owned (holds.filter_owner_eq_nil fresh) owned]
      exact ⟨_, _, explodedNow⟩
    · rw [filter_append_owned_of_ne owned same]
      exact succeed item ((List.mem_cons.mp member).resolve_left same)

/-- A run on a single-parent BOM keeps the worklist invariant, every item's
dependent demands exploded from its parent's orders, and every processed item's
orders exploding. -/
theorem runWorklist_dependentDemandsExploded (singleParent : SingleParent calculator.bomGraph)
    {fuel uuid : Nat} {final : KernelState}
    (looped : calculator.runWorklist floatLotSize order inputs fuel
      (initialState (topologicalSort order demands) uuid) = .ok final) :
    WorklistInvariant calculator.bomGraph demands final ∧
      DependentDemandsExploded calculator final ∧ ExplosionsSucceed calculator final :=
  calculator.runWorklist_invariant floatLotSize order inputs
    (fun state => WorklistInvariant calculator.bomGraph demands state ∧
      DependentDemandsExploded calculator state ∧ ExplosionsSucceed calculator state)
    (fun _ _ _ _ holds popped stepped =>
      ⟨worklistInvariant_step holds.1 popped stepped,
        dependentDemandsExploded_step singleParent holds.1 holds.2.1 stepped,
        explosionsSucceed_step holds.1 holds.2.2 stepped⟩)
    ⟨worklistInvariant_initialState _ order demands uuid,
      dependentDemandsExploded_initialState _ uuid, fun _ member => absurd member (List.not_mem_nil _)⟩
    looped

end

/-- An item popped by a run has demands to net: its own, or those its
parent's orders exploded to it. -/
theorem DependentDemandsExploded.demands_ne_nil {calculator : MrpCalculator}
    {demands : List Demand} {state : KernelState}
    (exploded : DependentDemandsExploded calculator state)
    (holds : WorklistInvariant calculator.bomGraph demands state) {componentId : String}
    (queued : componentId ∈ state.componentsToProcess) :
    groupDemandsByComponent demands componentId ++ state.dependentDemands componentId ≠ [] := by
  intro empty
  obtain ⟨noIndependent, noDependent⟩ := List.append_eq_nil.mp empty
  rcases (holds.visited componentId).mp (.inl queued) with
    demanded | ⟨parent, ⟨plannedOrder, member, owner⟩, child⟩
  · obtain ⟨demand, demandMember, same⟩ := List.mem_map.mp (List.mem_dedup.mp demanded)
    exact List.filter_eq_nil_iff.mp noIndependent demand demandMember (by simpa using same)
  · obtain ⟨uuid, childDemands, explodedNow, held⟩ := exploded.child componentId parent child
    have keyed := (explodeBom_ok explodedNow componentId).mpr
      ⟨List.ne_nil_of_mem (List.mem_filter.mpr ⟨member, by simpa using owner⟩), child⟩
    obtain ⟨demand, demandMember, same⟩ := List.mem_map.mp (List.mem_dedup.mp keyed)
    rw [held] at noDependent
    exact List.filter_eq_nil_iff.mp noDependent demand demandMember (by simpa using same)

/-! ## Two runs under different hash orders -/

/-- The end of a run of the loop on a single-parent BOM: the queue is empty,
and the worklist invariant, the frozen plans, the exploded dependent demands
and the succeeding explosions hold. -/
structure SettledRun (calculator : MrpCalculator) (floatLotSize : ℚ → ℚ) (inputs : LoopInputs)
    (demands : List Demand) (final : KernelState) : Prop where
  holds : WorklistInvariant calculator.bomGraph demands final
  emptied : final.componentsToProcess = []
  frozen : PlansFrozen calculator floatLotSize inputs final
  exploded : DependentDemandsExploded calculator final
  explodes : ExplosionsSucceed calculator final

/-- Each processed item of a run is given, up to identifiers, the orders
another run gives it. -/
def PlansAgree (state other : KernelState) : Prop :=
  ∀ componentId ∈ state.processedComponents,
    (state.allPlannedOrders.filter (·.componentId = componentId)).map PlannedOrder.eraseId =
      (other.allPlannedOrders.filter (·.componentId = componentId)).map PlannedOrder.eraseId

section

variable {calculator : MrpCalculator} {floatLotSize : ℚ → ℚ} {order : HashOrder}
  {demands : List Demand} {supplies : List Supply} {inventories : List Inventory}
  {state other : KernelState}

/-- A run of the loop `calculate` starts on a single-parent BOM, with
independent demand only at its roots, settles. -/
theorem runWorklist_settledRun (singleParent : SingleParent calculator.bomGraph)
    (atRoots : DemandsAtRoots calculator.bomGraph demands) {inputs : LoopInputs} {uuid : Nat}
    {final : KernelState}
    (looped : calculator.runWorklist floatLotSize order inputs (calculator.worklistFuel demands)
      (initialState (topologicalSort order demands) uuid) = .ok final) :
    SettledRun calculator floatLotSize inputs demands final :=
  have frozen := runWorklist_plansFrozen singleParent atRoots looped
  have exploded := runWorklist_dependentDemandsExploded singleParent looped
  ⟨frozen.1, runWorklist_emptiesQueue calculator floatLotSize order inputs demands uuid looped,
    frozen.2, exploded.2.1, exploded.2.2⟩

/-- A queued item is processed by the end of another run whose plans agree:
it is demanded, or a child of an item with orders in both runs. -/
theorem PlansAgree.processed (agree : PlansAgree state other)
    (holds : WorklistInvariant calculator.bomGraph demands state)
    (settled : SettledRun calculator floatLotSize inputs demands other) {componentId : String}
    (queued : componentId ∈ state.componentsToProcess) :
    componentId ∈ other.processedComponents := by
  have reached : Reached calculator.bomGraph demands other.allPlannedOrders componentId := by
    rcases (holds.visited componentId).mp (.inl queued) with
      demanded | ⟨parent, ⟨plannedOrder, member, owner⟩, child⟩
    · exact .inl demanded
    · have done : parent ∈ state.processedComponents :=
        owner ▸ holds.plannedProcessed _ (holds.ordersPlanned plannedOrder member)
      have kept : plannedOrder.eraseId ∈
          (other.allPlannedOrders.filter (·.componentId = parent)).map PlannedOrder.eraseId := by
        rw [← agree parent done]
        exact List.mem_map_of_mem _ (List.mem_filter.mpr ⟨member, by simpa using owner⟩)
      obtain ⟨otherOrder, otherMember, -⟩ := List.mem_map.mp kept
      obtain ⟨inOther, otherOwner⟩ := List.mem_filter.mp otherMember
      exact .inr ⟨parent, ⟨otherOrder, inOther, by simpa using otherOwner⟩, child⟩
  have visited := (settled.holds.visited componentId).mpr reached
  rw [settled.emptied] at visited
  exact visited.resolve_left (List.not_mem_nil _)

/-- A queued item's demands have the terms of those it holds at the end of
another run whose plans agree: the same independent demands, and no dependent
demands or what the same parent's orders explode to. -/
theorem PlansAgree.componentDemands_terms (singleParent : SingleParent calculator.bomGraph)
    (atRoots : DemandsAtRoots calculator.bomGraph demands) (agree : PlansAgree state other)
    (holds : WorklistInvariant calculator.bomGraph demands state)
    (exploded : DependentDemandsExploded calculator state)
    (settled : SettledRun calculator floatLotSize inputs demands other) {componentId : String}
    (queued : componentId ∈ state.componentsToProcess) :
    (groupDemandsByComponent demands componentId ++ state.dependentDemands componentId).map
        Demand.terms =
      (groupDemandsByComponent demands componentId ++ other.dependentDemands componentId).map
        Demand.terms := by
  rw [List.map_append, List.map_append]
  congr 1
  by_cases orphan : ∀ parent, componentId ∉ childItems calculator.bomGraph parent
  · rw [exploded.orphan componentId orphan, settled.exploded.orphan componentId orphan]
  · obtain ⟨parent, child⟩ := not_forall_not.mp orphan
    obtain ⟨_, childDemands, explodedNow, held⟩ := exploded.child componentId parent child
    obtain ⟨_, otherDemands, otherExploded, otherHeld⟩ :=
      settled.exploded.child componentId parent child
    rw [held, otherHeld]
    exact groupDemandsByComponent_terms (explodeBom_terms
      (agree parent (holds.parent_processed singleParent atRoots (.inl queued) child))
      explodedNow otherExploded) componentId

/-- Every iteration of a run keeps its plans agreeing with the end of another
run: the item it plans nets, up to terms, what it nets there. -/
theorem plansAgree_step (singleParent : SingleParent calculator.bomGraph)
    (atRoots : DemandsAtRoots calculator.bomGraph demands)
    (settled : SettledRun calculator floatLotSize (loopInputs demands supplies inventories)
      demands other)
    {next : KernelState} {componentId : String} {rest : List String}
    (holds : WorklistInvariant calculator.bomGraph demands state)
    (exploded : DependentDemandsExploded calculator state) (agree : PlansAgree state other)
    (popped : state.componentsToProcess = componentId :: rest)
    (stepped : calculator.processComponent floatLotSize order
      (loopInputs demands supplies inventories)
      { state with componentsToProcess := rest, iterations := state.iterations + 1 }
      componentId = .ok next) :
    PlansAgree next other := by
  have queued : componentId ∈ state.componentsToProcess := popped ▸ List.mem_cons_self _ _
  rcases calculator.processComponent_ok floatLotSize order _ stepped with
    ⟨-, rfl⟩ | ⟨-, noDemands, -⟩ | ⟨fresh, plannedOrders, childDemands, calculated, -, rfl⟩
  · exact agree
  · exact absurd noDemands (exploded.demands_ne_nil holds queued)
  · obtain ⟨_, -, -, -, each⟩ := calculateComponentMrp_ok calculated
    have owned := fun plannedOrder member => (each plannedOrder member).1
    intro item member
    rw [recordPlan_processedComponents] at member
    rw [recordPlan_allPlannedOrders]
    rcases List.mem_cons.mp member with rfl | earlier
    · have sameTerms :=
        agree.componentDemands_terms singleParent atRoots holds exploded settled queued
      rw [filter_append_owned (holds.filter_owner_eq_nil fresh) owned]
      rcases settled.frozen item (agree.processed holds settled queued) with
        ⟨noDemands, -⟩ | ⟨_, plan⟩
      · rw [show groupDemandsByComponent demands item ++ other.dependentDemands item = [] from
          noDemands, List.map_nil, List.map_eq_nil_iff] at sameTerms
        exact absurd sameTerms (exploded.demands_ne_nil holds queued)
      · exact calculateComponentMrp_eraseId sameTerms calculated plan
    · rw [filter_append_owned_of_ne owned fun same => fresh (same ▸ earlier)]
      exact agree item earlier

/-- A run of the loop `calculate` starts, on a single-parent BOM with
independent demand only at its roots, gives every item it processes the
orders the end of another such run gives it, up to identifiers. -/
theorem runWorklist_plansAgree (singleParent : SingleParent calculator.bomGraph)
    (atRoots : DemandsAtRoots calculator.bomGraph demands)
    (settled : SettledRun calculator floatLotSize (loopInputs demands supplies inventories)
      demands other)
    {fuel uuid : Nat} {final : KernelState}
    (looped : calculator.runWorklist floatLotSize order (loopInputs demands supplies inventories)
      fuel (initialState (topologicalSort order demands) uuid) = .ok final) :
    PlansAgree final other :=
  (calculator.runWorklist_invariant floatLotSize order _
    (fun state => WorklistInvariant calculator.bomGraph demands state ∧
      DependentDemandsExploded calculator state ∧ PlansAgree state other)
    (fun _ _ _ _ holds popped stepped =>
      ⟨worklistInvariant_step holds.1 popped stepped,
        dependentDemandsExploded_step singleParent holds.1 holds.2.1 stepped,
        plansAgree_step singleParent atRoots settled holds.1 holds.2.1 holds.2.2 popped
          stepped⟩)
    ⟨worklistInvariant_initialState _ order demands uuid,
      dependentDemandsExploded_initialState _ uuid, fun _ member => absurd member (List.not_mem_nil _)⟩
    looped).2.2

/-- An iteration of a run whose plans agree with the end of a successful run
succeeds: the popped item nets, up to terms, what it nets there, so its plan
and the explosion of its orders return as they did there. -/
theorem processComponent_agrees (singleParent : SingleParent calculator.bomGraph)
    (atRoots : DemandsAtRoots calculator.bomGraph demands)
    (settled : SettledRun calculator floatLotSize (loopInputs demands supplies inventories)
      demands other)
    (holds : WorklistInvariant calculator.bomGraph demands state)
    (exploded : DependentDemandsExploded calculator state) (agree : PlansAgree state other)
    {componentId : String} {rest : List String}
    (popped : state.componentsToProcess = componentId :: rest) :
    ∃ next, calculator.processComponent floatLotSize order
        (loopInputs demands supplies inventories)
        { state with componentsToProcess := rest, iterations := state.iterations + 1 }
        componentId = .ok next := by
  have queued : componentId ∈ state.componentsToProcess := popped ▸ List.mem_cons_self _ _
  rw [processComponent]
  split_ifs
  · exact ⟨_, rfl⟩
  · exact ⟨_, rfl⟩
  · have processed := agree.processed holds settled queued
    have sameTerms :=
      agree.componentDemands_terms singleParent atRoots holds exploded settled queued
    rcases settled.frozen componentId processed with ⟨noDemands, -⟩ | ⟨_, plan⟩
    · rw [show groupDemandsByComponent demands componentId ++
          other.dependentDemands componentId = [] from noDemands, List.map_nil,
        List.map_eq_nil_iff] at sameTerms
      exact absurd sameTerms (exploded.demands_ne_nil holds queued)
    · obtain ⟨plannedOrders, planned, erased⟩ :=
        calculateComponentMrp_renumber sameTerms.symm plan state.nextUuid
      obtain ⟨_, _, explodedThere⟩ := settled.explodes componentId processed
      obtain ⟨childDemands, explodedHere, -⟩ :=
        explodeBom_renumber erased explodedThere (state.nextUuid + plannedOrders.length)
      exact ⟨_, Except.bind_eq_ok.mpr ⟨plannedOrders, planned,
        Except.bind_eq_ok.mpr ⟨childDemands, explodedHere, rfl⟩⟩⟩

/-- A run from a state whose plans agree with the end of a successful run
returns, whatever its fuel. -/
theorem runWorklist_agrees_returns (singleParent : SingleParent calculator.bomGraph)
    (atRoots : DemandsAtRoots calculator.bomGraph demands)
    (settled : SettledRun calculator floatLotSize (loopInputs demands supplies inventories)
      demands other) :
    ∀ (fuel : Nat) (state : KernelState), WorklistInvariant calculator.bomGraph demands state →
      DependentDemandsExploded calculator state → PlansAgree state other →
      ∃ final, calculator.runWorklist floatLotSize order
        (loopInputs demands supplies inventories) fuel state = .ok final
  | 0, state, _, _, _ => ⟨state, rfl⟩
  | fuel + 1, state, holds, exploded, agree => by
      rw [runWorklist_succ]
      split
      · exact ⟨state, rfl⟩
      · next componentId rest popped =>
          obtain ⟨next, stepped⟩ :=
            processComponent_agrees singleParent atRoots settled holds exploded agree popped
          rw [stepped]
          exact runWorklist_agrees_returns singleParent atRoots settled fuel next
            (worklistInvariant_step holds popped stepped)
            (dependentDemandsExploded_step singleParent holds exploded stepped)
            (plansAgree_step singleParent atRoots settled holds exploded agree popped stepped)

end

/-- On a BOM where every item has at most one parent and independent demand
is only for items with none, two successful runs under any two hash orders
give every item the same planned orders, in the same order, up to their
identifiers. -/
theorem calculate_plans_hashOrder_invariant (calculator : MrpCalculator)
    (floatLotSize : ℚ → ℚ) (order otherOrder : HashOrder) (demands : List Demand)
    (supplies : List Supply) (inventories : List Inventory) {result otherResult : MrpResult}
    (ran : calculator.calculate floatLotSize order demands supplies inventories = .ok result)
    (otherRan : calculator.calculate floatLotSize otherOrder demands supplies inventories =
      .ok otherResult)
    (singleParent : SingleParent calculator.bomGraph)
    (atRoots : DemandsAtRoots calculator.bomGraph demands) (componentId : String) :
    (result.plannedOrders.filter (·.componentId = componentId)).map PlannedOrder.eraseId =
      (otherResult.plannedOrders.filter (·.componentId = componentId)).map
        PlannedOrder.eraseId := by
  obtain ⟨final, looped, planned, -⟩ := calculate_ok ran
  obtain ⟨otherFinal, otherLooped, otherPlanned, -⟩ := calculate_ok otherRan
  rw [planned, otherPlanned]
  have settled := runWorklist_settledRun singleParent atRoots looped
  have otherSettled := runWorklist_settledRun singleParent atRoots otherLooped
  by_cases processed : componentId ∈ final.processedComponents
  · exact runWorklist_plansAgree singleParent atRoots otherSettled looped componentId processed
  by_cases otherProcessed : componentId ∈ otherFinal.processedComponents
  · exact (runWorklist_plansAgree singleParent atRoots settled otherLooped componentId
      otherProcessed).symm
  rw [settled.holds.filter_owner_eq_nil processed,
    otherSettled.holds.filter_owner_eq_nil otherProcessed]

/-- Ten bikes and four bells due on day 12; bells are bought and are no BOM
node. -/
def bellDemands : List Demand :=
  [Demand.new 1 "BIKE" 10 12 .salesOrder, Demand.new 2 "BELL" 4 12 .salesOrder]

/-- The bikes and bells are demanded only at the BOM's roots. -/
theorem bellDemands_atRoots : DemandsAtRoots bikePlant.bomGraph bellDemands :=
  fun item demanded parent child => by
    have frame := (childItems_bikePlant child).2
    have demandedItem : item = "BIKE" ∨ item = "BELL" := by
      simpa [componentKeys, bellDemands, Demand.new] using demanded
    rcases demandedItem with rfl | rfl <;> exact absurd frame (by decide)

theorem calculate_bells_insertion :
    bikePlant.calculate (fun _ => 0) .insertion bellDemands [] [] =
      .ok ⟨[PlannedOrder.new 3 "BIKE" 10 12 7 .production,
          PlannedOrder.new 5 "BELL" 4 12 6 .purchase,
          PlannedOrder.new 6 "FRAME" 20 7 4 .purchase,
          PlannedOrder.new 7 "FRAME" 20 12 6 .purchase],
        [(3, [PeggingRecord.new 1 10 ["BIKE"]]), (5, [PeggingRecord.new 2 4 ["BELL"]]),
          (6, []), (7, [])]⟩ := by
  with_unfolding_all rfl

theorem calculate_bells_reversed :
    bikePlant.calculate (fun _ => 0) .reversed bellDemands [] [] =
      .ok ⟨[PlannedOrder.new 3 "BELL" 4 12 6 .purchase,
          PlannedOrder.new 4 "BIKE" 10 12 7 .production,
          PlannedOrder.new 6 "FRAME" 20 7 4 .purchase,
          PlannedOrder.new 7 "FRAME" 20 12 6 .purchase],
        [(3, [PeggingRecord.new 2 4 ["BELL"]]), (4, [PeggingRecord.new 1 10 ["BIKE"]]),
          (6, []), (7, [])]⟩ := by
  with_unfolding_all rfl

/-- The two hash orders plan bikes and bells in opposite orders and number
their orders differently, yet give the bikes the same order up to its
identifier. -/
theorem calculate_plans_hashOrder_invariant_bells :
    bikePlant.calculate (fun _ => 0) .insertion bellDemands [] [] =
        .ok ⟨[PlannedOrder.new 3 "BIKE" 10 12 7 .production,
            PlannedOrder.new 5 "BELL" 4 12 6 .purchase,
            PlannedOrder.new 6 "FRAME" 20 7 4 .purchase,
            PlannedOrder.new 7 "FRAME" 20 12 6 .purchase],
          [(3, [PeggingRecord.new 1 10 ["BIKE"]]), (5, [PeggingRecord.new 2 4 ["BELL"]]),
            (6, []), (7, [])]⟩ ∧
      bikePlant.calculate (fun _ => 0) .reversed bellDemands [] [] =
        .ok ⟨[PlannedOrder.new 3 "BELL" 4 12 6 .purchase,
            PlannedOrder.new 4 "BIKE" 10 12 7 .production,
            PlannedOrder.new 6 "FRAME" 20 7 4 .purchase,
            PlannedOrder.new 7 "FRAME" 20 12 6 .purchase],
          [(3, [PeggingRecord.new 2 4 ["BELL"]]), (4, [PeggingRecord.new 1 10 ["BIKE"]]),
            (6, []), (7, [])]⟩ ∧
      SingleParent bikePlant.bomGraph ∧ DemandsAtRoots bikePlant.bomGraph bellDemands ∧
      ([PlannedOrder.new 3 "BIKE" 10 12 7 .production,
          PlannedOrder.new 5 "BELL" 4 12 6 .purchase,
          PlannedOrder.new 6 "FRAME" 20 7 4 .purchase,
          PlannedOrder.new 7 "FRAME" 20 12 6 .purchase].filter
          (·.componentId = "BIKE")).map PlannedOrder.eraseId =
        ([PlannedOrder.new 3 "BELL" 4 12 6 .purchase,
          PlannedOrder.new 4 "BIKE" 10 12 7 .production,
          PlannedOrder.new 6 "FRAME" 20 7 4 .purchase,
          PlannedOrder.new 7 "FRAME" 20 12 6 .purchase].filter
          (·.componentId = "BIKE")).map PlannedOrder.eraseId :=
  ⟨calculate_bells_insertion, calculate_bells_reversed, bikePlant_singleParent,
    bellDemands_atRoots, calculate_plans_hashOrder_invariant _ _ _ _ _ _ _
      calculate_bells_insertion calculate_bells_reversed bikePlant_singleParent
      bellDemands_atRoots "BIKE"⟩

/-- On a BOM where every item has at most one parent and independent demand
is only for items with none, a run of `calculate` that succeeds under one hash
order succeeds under every other. -/
theorem calculate_succeeds_under_every_hashOrder (calculator : MrpCalculator)
    (floatLotSize : ℚ → ℚ) (order otherOrder : HashOrder) (demands : List Demand)
    (supplies : List Supply) (inventories : List Inventory) {result : MrpResult}
    (ran : calculator.calculate floatLotSize order demands supplies inventories = .ok result)
    (singleParent : SingleParent calculator.bomGraph)
    (atRoots : DemandsAtRoots calculator.bomGraph demands) :
    ∃ otherResult,
      calculator.calculate floatLotSize otherOrder demands supplies inventories =
        .ok otherResult := by
  obtain ⟨final, looped, -, -⟩ := calculate_ok ran
  obtain ⟨otherFinal, otherLooped⟩ : ∃ otherFinal, calculator.runWorklist floatLotSize otherOrder
      (loopInputs demands supplies inventories) (calculator.worklistFuel demands)
      (initialState (topologicalSort otherOrder demands) (firstFreshUuid demands)) =
        .ok otherFinal :=
    runWorklist_agrees_returns singleParent atRoots
      (runWorklist_settledRun singleParent atRoots looped) _ _
      (worklistInvariant_initialState _ otherOrder demands _)
      (dependentDemandsExploded_initialState _ _) fun _ member => absurd member (List.not_mem_nil _)
  exact ⟨_, by rw [calculate, otherLooped]; rfl⟩

/-- The bikes and bells planned with the map yielding demands in insertion
order are planned with it yielding them in reverse. -/
theorem calculate_succeeds_under_every_hashOrder_bells :
    bikePlant.calculate (fun _ => 0) .insertion bellDemands [] [] =
        .ok ⟨[PlannedOrder.new 3 "BIKE" 10 12 7 .production,
            PlannedOrder.new 5 "BELL" 4 12 6 .purchase,
            PlannedOrder.new 6 "FRAME" 20 7 4 .purchase,
            PlannedOrder.new 7 "FRAME" 20 12 6 .purchase],
          [(3, [PeggingRecord.new 1 10 ["BIKE"]]), (5, [PeggingRecord.new 2 4 ["BELL"]]),
            (6, []), (7, [])]⟩ ∧
      SingleParent bikePlant.bomGraph ∧ DemandsAtRoots bikePlant.bomGraph bellDemands ∧
      ∃ otherResult, bikePlant.calculate (fun _ => 0) .reversed bellDemands [] [] =
        .ok otherResult :=
  ⟨calculate_bells_insertion, bikePlant_singleParent, bellDemands_atRoots,
    calculate_succeeds_under_every_hashOrder _ _ _ .reversed _ _ _ calculate_bells_insertion
      bikePlant_singleParent bellDemands_atRoots⟩

end MrpCalculator

end NexusMrp
