import NexusMrp.Calc.PlanInvariants

/-!
# Termination of the worklist loop

The loop never checks the BOM for cycles, yet it terminates on every graph:
an item enters the queue only while neither processed nor queued, and a popped
item is marked processed. The one way an item is popped twice is a BOM
self-loop: while an item is planned it is in neither list, so it can queue
itself as its own child, and is skipped when popped again.

`WorklistInvariant` counts this exactly. At every iteration the iterations
so far plus the processed items still queued equal the processed items plus
those that queued themselves. When the queue is empty the loop has run once
per item it reached and once more per self-looping item; before that the
count is below twice the number of demanded items and BOM nodes, which is the
fuel `calculate` gives the loop.
-/

namespace NexusMrp

namespace MrpCalculator

/-- The items `explode_bom` creates demands for when an item has orders: its
children in the arena. -/
def childItems (graph : BomGraph) (componentId : String) : List String :=
  match graph.findNode componentId with
  | none => []
  | some parentNode => (graph.children parentNode).filterMap (graph.node ·.1)

/-- An item that received planned orders and is its own BOM child. -/
def SelfLooping (graph : BomGraph) (plannedOrders : List PlannedOrder)
    (componentId : String) : Prop :=
  componentId ∈ childItems graph componentId ∧
    ∃ plannedOrder ∈ plannedOrders, plannedOrder.componentId = componentId

instance (graph : BomGraph) (plannedOrders : List PlannedOrder) :
    DecidablePred (SelfLooping graph plannedOrders) :=
  fun _ => inferInstanceAs (Decidable (_ ∧ _))

/-- The items the loop reaches: those with independent demand, and the BOM
children of items that received planned orders. -/
def Reached (graph : BomGraph) (demands : List Demand) (plannedOrders : List PlannedOrder)
    (componentId : String) : Prop :=
  componentId ∈ componentKeys demands ∨
    ∃ parent, (∃ plannedOrder ∈ plannedOrders, plannedOrder.componentId = parent) ∧
      componentId ∈ childItems graph parent

/-! ## What `explode_bom` creates -/

section

variable {graph : BomGraph} {parentId : String}

theorem explodeOrder_ok {plannedOrder : PlannedOrder} {uuid : Nat}
    {children : List (Nat × ℚ)} {childDemands : List Demand}
    (exploded : explodeOrder graph parentId plannedOrder uuid children = .ok childDemands) :
    childDemands.map (·.componentId) = children.filterMap (graph.node ·.1) := by
  induction children generalizing uuid childDemands with
  | nil => cases exploded; rfl
  | cons child rest inductionHypothesis =>
      obtain ⟨childNodeIdx, quantityPer⟩ := child
      simp only [explodeOrder] at exploded
      cases found : graph.node childNodeIdx with
      | none => simp [found] at exploded
      | some childId =>
          simp only [found, Except.bind_eq_ok, pure, Except.pure, Except.ok.injEq] at exploded
          obtain ⟨others, othersOk, rfl⟩ := exploded
          simp [List.filterMap_cons, found, inductionHypothesis othersOk, Demand.withSourceRef,
            Demand.new]

theorem explodeOrders_ok {children : List (Nat × ℚ)} {uuid : Nat}
    {plannedOrders : List PlannedOrder} {childDemands : List Demand}
    (exploded : explodeOrders graph parentId children uuid plannedOrders = .ok childDemands)
    (childId : String) :
    childId ∈ childDemands.map (·.componentId) ↔
      plannedOrders ≠ [] ∧ childId ∈ children.filterMap (graph.node ·.1) := by
  induction plannedOrders generalizing uuid childDemands with
  | nil => cases exploded; simp
  | cons plannedOrder rest inductionHypothesis =>
      simp only [explodeOrders, Except.bind_eq_ok, pure, Except.pure, Except.ok.injEq]
        at exploded
      obtain ⟨first, firstOk, others, othersOk, rfl⟩ := exploded
      rw [List.map_append, List.mem_append, explodeOrder_ok firstOk,
        inductionHypothesis othersOk]
      simp only [ne_eq, reduceCtorEq, not_false_eq_true, true_and]
      exact or_iff_left_of_imp And.right

end

/-- `explode_bom` creates demands exactly for the children of an item that
has orders. -/
theorem explodeBom_ok {calculator : MrpCalculator} {parentId : String}
    {plannedOrders : List PlannedOrder} {uuid : Nat} {childDemands : List Demand}
    (exploded : calculator.explodeBom parentId plannedOrders uuid = .ok childDemands)
    (childId : String) :
    childId ∈ componentKeys childDemands ↔
      plannedOrders ≠ [] ∧ childId ∈ childItems calculator.bomGraph parentId := by
  rw [componentKeys, List.mem_dedup]
  unfold explodeBom at exploded
  split_ifs at exploded with noOrders
  · cases exploded; simp [noOrders]
  · unfold childItems
    cases found : calculator.bomGraph.findNode parentId with
    | none => simp only [found, pure, Except.pure] at exploded; cases exploded; simp
    | some parentNode =>
        simp only [found] at exploded ⊢
        split_ifs at exploded with noChildren
        · cases exploded; simp [noChildren]
        · exact explodeOrders_ok exploded childId

/-- The children of an item are nodes of the arena. -/
theorem mem_nodes_of_mem_childItems {graph : BomGraph} {parentId childId : String}
    (member : childId ∈ childItems graph parentId) : childId ∈ graph.nodes := by
  unfold childItems at member
  split at member
  · simp at member
  · obtain ⟨child, -, found⟩ := List.mem_filterMap.mp member
    exact List.getElem?_mem found

/-! ## Orders of one item appended -/

section

variable {graph : BomGraph} {demands : List Demand} {earlier added : List PlannedOrder}
  {componentId : String}

/-- Orders appended for one item add that item's children to what is
reached, and nothing else. -/
theorem reached_append
    (owned : ∀ plannedOrder ∈ added, plannedOrder.componentId = componentId) (item : String) :
    Reached graph demands (earlier ++ added) item ↔
      Reached graph demands earlier item ∨
        (added ≠ [] ∧ item ∈ childItems graph componentId) := by
  unfold Reached
  constructor
  · rintro (demanded | ⟨parent, ⟨plannedOrder, member, rfl⟩, child⟩)
    · exact .inl (.inl demanded)
    · rcases List.mem_append.mp member with old | new
      · exact .inl (.inr ⟨_, ⟨plannedOrder, old, rfl⟩, child⟩)
      · exact .inr ⟨List.ne_nil_of_mem new, owned plannedOrder new ▸ child⟩
  · rintro ((demanded | ⟨parent, ⟨plannedOrder, member, rfl⟩, child⟩) | ⟨nonempty, child⟩)
    · exact .inl demanded
    · exact .inr ⟨_, ⟨plannedOrder, List.mem_append_left _ member, rfl⟩, child⟩
    · obtain ⟨plannedOrder, member⟩ := List.exists_mem_of_ne_nil added nonempty
      exact .inr ⟨componentId,
        ⟨plannedOrder, List.mem_append_right _ member, owned plannedOrder member⟩, child⟩

theorem selfLooping_append_of_ne
    (owned : ∀ plannedOrder ∈ added, plannedOrder.componentId = componentId)
    {item : String} (other : item ≠ componentId) :
    SelfLooping graph (earlier ++ added) item ↔ SelfLooping graph earlier item := by
  unfold SelfLooping
  constructor
  · rintro ⟨child, plannedOrder, member, rfl⟩
    rcases List.mem_append.mp member with old | new
    · exact ⟨child, plannedOrder, old, rfl⟩
    · exact absurd (owned plannedOrder new) other
  · rintro ⟨child, plannedOrder, member, rfl⟩
    exact ⟨child, plannedOrder, List.mem_append_left _ member, rfl⟩

theorem selfLooping_append_self
    (owned : ∀ plannedOrder ∈ added, plannedOrder.componentId = componentId)
    (fresh : ∀ plannedOrder ∈ earlier, plannedOrder.componentId ≠ componentId) :
    SelfLooping graph (earlier ++ added) componentId ↔
      added ≠ [] ∧ componentId ∈ childItems graph componentId := by
  unfold SelfLooping
  constructor
  · rintro ⟨child, plannedOrder, member, same⟩
    rcases List.mem_append.mp member with old | new
    · exact absurd same (fresh plannedOrder old)
    · exact ⟨List.ne_nil_of_mem new, child⟩
  · rintro ⟨nonempty, child⟩
    obtain ⟨plannedOrder, member⟩ := List.exists_mem_of_ne_nil added nonempty
    exact ⟨child, plannedOrder, List.mem_append_right _ member, owned plannedOrder member⟩

end

/-! ## The accounting invariant -/

/-- What holds at every iteration of a loop started from `demands`. The queue
and the processed list are duplicate-free and together hold exactly the items
reached; every planned item was processed and owns the orders collected for
it; and the iterations so far plus the processed items still queued equal the
processed items plus the self-looping ones. -/
structure WorklistInvariant (graph : BomGraph) (demands : List Demand) (state : KernelState) :
    Prop where
  queueNodup : state.componentsToProcess.Nodup
  processedNodup : state.processedComponents.Nodup
  plannedNodup : state.plannedComponents.Nodup
  plannedProcessed : ∀ item ∈ state.plannedComponents, item ∈ state.processedComponents
  ordersPlanned : ∀ plannedOrder ∈ state.allPlannedOrders,
    plannedOrder.componentId ∈ state.plannedComponents
  visited : ∀ item, item ∈ state.componentsToProcess ∨ item ∈ state.processedComponents ↔
    Reached graph demands state.allPlannedOrders item
  balance : state.iterations +
      state.componentsToProcess.countP (· ∈ state.processedComponents) =
    state.processedComponents.length +
      state.processedComponents.countP (SelfLooping graph state.allPlannedOrders ·)

namespace WorklistInvariant

variable {graph : BomGraph} {demands : List Demand} {state : KernelState}

/-- An unprocessed item has no orders yet. -/
theorem no_orders_of_not_processed (holds : WorklistInvariant graph demands state)
    {componentId : String} (fresh : componentId ∉ state.processedComponents) :
    ∀ plannedOrder ∈ state.allPlannedOrders, plannedOrder.componentId ≠ componentId :=
  fun plannedOrder member same =>
    fresh (same ▸ holds.plannedProcessed _ (holds.ordersPlanned plannedOrder member))

end WorklistInvariant

theorem worklistInvariant_initialState (graph : BomGraph) (order : HashOrder)
    (demands : List Demand) (uuid : Nat) :
    WorklistInvariant graph demands (initialState (topologicalSort order demands) uuid) where
  queueNodup := (order.demandKeys_perm _).nodup_iff.mpr (List.nodup_dedup _)
  processedNodup := List.nodup_nil
  plannedNodup := List.nodup_nil
  plannedProcessed := by simp [initialState]
  ordersPlanned := by simp [initialState]
  visited := by simp [initialState, Reached, topologicalSort, (order.demandKeys_perm _).mem_iff]
  balance := by simp [initialState]

/-- Marking an item processed does not change how many of the other queued
items are processed. -/
theorem countP_mem_cons_of_not_mem {queued processed : List String} {componentId : String}
    (notQueued : componentId ∉ queued) :
    queued.countP (· ∈ componentId :: processed) = queued.countP (· ∈ processed) :=
  List.countP_congr fun item member => by
    simp [List.mem_cons, ne_of_mem_of_not_mem member notQueued]

/-- Of the children an item pushes, the item is the only one processed once it
is marked, and it is pushed exactly when it is its own child. -/
theorem countP_pushed_mem_cons {keys rest processed : List String} {componentId : String}
    (keysNodup : keys.Nodup) (fresh : componentId ∉ processed) (notRest : componentId ∉ rest) :
    (keys.filter fun item => item ∉ processed ∧ item ∉ rest).countP
      (· ∈ componentId :: processed) = if componentId ∈ keys then 1 else 0 := by
  have sameCount : (keys.filter fun item => item ∉ processed ∧ item ∉ rest).countP
      (· ∈ componentId :: processed) =
      (keys.filter fun item => item ∉ processed ∧ item ∉ rest).count componentId :=
    List.countP_congr fun item member => by
      simp only [List.mem_filter, decide_eq_true_eq] at member
      simp [member.2.1]
  rw [sameCount]
  split_ifs with selfQueued
  · exact List.count_eq_one_of_mem (keysNodup.filter _) (by simp [selfQueued, fresh, notRest])
  · exact List.count_eq_zero_of_not_mem (by simp [selfQueued])

section

variable {calculator : MrpCalculator} {demands : List Demand} {state : KernelState}
  {componentId : String} {rest : List String}

/-- Popping an item already processed keeps the invariant: it counted once
among the processed items still queued, and now counts as an iteration. -/
theorem worklistInvariant_skip (holds : WorklistInvariant calculator.bomGraph demands state)
    (popped : state.componentsToProcess = componentId :: rest)
    (skipped : componentId ∈ state.processedComponents) :
    WorklistInvariant calculator.bomGraph demands
      { state with componentsToProcess := rest, iterations := state.iterations + 1 } := by
  have queued := holds.queueNodup
  have visited := holds.visited
  have balance := holds.balance
  rw [popped] at queued visited balance
  refine ⟨(List.nodup_cons.mp queued).2, holds.processedNodup, holds.plannedNodup,
    holds.plannedProcessed, holds.ordersPlanned, fun item => ?_, ?_⟩
  · rw [← visited item, List.mem_cons, or_assoc]
    exact ⟨.inr, fun visitedItem => visitedItem.elim (fun same => .inr (same ▸ skipped)) id⟩
  · simp only [List.countP_cons, skipped, decide_True, ite_true] at balance
    dsimp only
    omega

/-- Popping an unprocessed item without demands marks it processed; it has
no orders, so it is not self-looping. -/
theorem worklistInvariant_mark (holds : WorklistInvariant calculator.bomGraph demands state)
    (popped : state.componentsToProcess = componentId :: rest)
    (fresh : componentId ∉ state.processedComponents) :
    WorklistInvariant calculator.bomGraph demands
      { state with componentsToProcess := rest, iterations := state.iterations + 1,
                   processedComponents := componentId :: state.processedComponents } := by
  have queued := holds.queueNodup
  have visited := holds.visited
  have balance := holds.balance
  rw [popped] at queued visited balance
  obtain ⟨notRest, restNodup⟩ := List.nodup_cons.mp queued
  have notSelfLooping : ¬ SelfLooping calculator.bomGraph state.allPlannedOrders componentId :=
    fun ⟨_, plannedOrder, member, same⟩ =>
      holds.no_orders_of_not_processed fresh plannedOrder member same
  refine ⟨restNodup, List.nodup_cons.mpr ⟨fresh, holds.processedNodup⟩, holds.plannedNodup,
    fun item member => List.mem_cons_of_mem _ (holds.plannedProcessed item member),
    holds.ordersPlanned, fun item => ?_, ?_⟩
  · dsimp only
    rw [← visited item, List.mem_cons, List.mem_cons, or_assoc]
    exact or_left_comm
  · simp only [List.countP_cons, fresh, decide_False, Bool.false_eq_true, if_false] at balance
    dsimp only
    rw [countP_mem_cons_of_not_mem notRest, List.countP_cons, List.length_cons]
    simp only [notSelfLooping, decide_False, Bool.false_eq_true, if_false]
    omega

/-- Planning an unprocessed item keeps the invariant: its children not yet
visited are queued, and it counts once more exactly when it queued itself,
which is when it is self-looping. -/
theorem worklistInvariant_plan {order : HashOrder}
    (holds : WorklistInvariant calculator.bomGraph demands state)
    (popped : state.componentsToProcess = componentId :: rest)
    (fresh : componentId ∉ state.processedComponents)
    {plannedOrders : List PlannedOrder} {childDemands : List Demand} {uuid : Nat}
    (owned : ∀ plannedOrder ∈ plannedOrders, plannedOrder.componentId = componentId)
    (exploded : calculator.explodeBom componentId plannedOrders uuid = .ok childDemands) :
    WorklistInvariant calculator.bomGraph demands
      (recordPlan order { state with componentsToProcess := rest,
                                     iterations := state.iterations + 1 }
        componentId plannedOrders childDemands) := by
  have queued := holds.queueNodup
  have visited := holds.visited
  have balance := holds.balance
  rw [popped] at queued visited balance
  obtain ⟨notRest, restNodup⟩ := List.nodup_cons.mp queued
  set keys := order.childKeys componentId (componentKeys childDemands)
  have keysNodup : keys.Nodup :=
    (order.childKeys_perm _ _).nodup_iff.mpr (List.nodup_dedup _)
  have keyMem : ∀ item, item ∈ keys ↔
      plannedOrders ≠ [] ∧ item ∈ childItems calculator.bomGraph componentId :=
    fun item => (order.childKeys_perm _ _).mem_iff.trans (explodeBom_ok exploded item)
  have selfLoop : SelfLooping calculator.bomGraph (state.allPlannedOrders ++ plannedOrders)
      componentId ↔ componentId ∈ keys :=
    (selfLooping_append_self owned (holds.no_orders_of_not_processed fresh)).trans
      (keyMem componentId).symm
  have pushCount := countP_pushed_mem_cons keysNodup fresh notRest
  have processedCount : state.processedComponents.countP
        (SelfLooping calculator.bomGraph (state.allPlannedOrders ++ plannedOrders) ·) =
      state.processedComponents.countP (SelfLooping calculator.bomGraph state.allPlannedOrders ·) :=
    List.countP_congr fun item member => by
      simpa using selfLooping_append_of_ne owned (ne_of_mem_of_not_mem member fresh)
  refine ⟨?_, ?_, ?_, ?_, ?_, fun item => ?_, ?_⟩ <;>
    simp only [recordPlan_componentsToProcess, recordPlan_processedComponents,
      recordPlan_plannedComponents, recordPlan_allPlannedOrders, recordPlan_iterations]
  · exact restNodup.append (keysNodup.filter _) fun item inRest pushed => by
      simp only [List.mem_filter, decide_eq_true_eq] at pushed
      exact pushed.2.2 inRest
  · exact List.nodup_cons.mpr ⟨fresh, holds.processedNodup⟩
  · exact holds.plannedNodup.append (List.nodup_singleton _)
      (List.disjoint_singleton.mpr fun member => fresh (holds.plannedProcessed _ member))
  · intro item member
    rcases List.mem_append.mp member with earlier | now
    · exact List.mem_cons_of_mem _ (holds.plannedProcessed item earlier)
    · exact List.mem_singleton.mp now ▸ List.mem_cons_self _ _
  · intro plannedOrder member
    rcases List.mem_append.mp member with earlier | now
    · exact List.mem_append_left _ (holds.ordersPlanned plannedOrder earlier)
    · exact owned plannedOrder now ▸ List.mem_append_right _ (List.mem_singleton_self _)
  · rw [reached_append owned, ← visited item, ← keyMem item]
    by_cases done : item ∈ state.processedComponents <;> by_cases queued : item ∈ rest <;>
      simp [done, queued, or_comm]
  · simp only [List.countP_cons, fresh, decide_False, Bool.false_eq_true, if_false] at balance
    rw [List.countP_append, countP_mem_cons_of_not_mem notRest, pushCount, List.countP_cons,
      processedCount, List.length_cons]
    simp only [decide_eq_true_eq, selfLoop]
    split_ifs <;> omega

/-- Every iteration keeps the invariant. -/
theorem worklistInvariant_step {floatLotSize : ℚ → ℚ} {order : HashOrder}
    {inputs : LoopInputs} {next : KernelState}
    (holds : WorklistInvariant calculator.bomGraph demands state)
    (popped : state.componentsToProcess = componentId :: rest)
    (stepped : calculator.processComponent floatLotSize order inputs
      { state with componentsToProcess := rest, iterations := state.iterations + 1 }
      componentId = .ok next) :
    WorklistInvariant calculator.bomGraph demands next := by
  rcases calculator.processComponent_ok floatLotSize order inputs stepped with
    ⟨skipped, rfl⟩ | ⟨fresh, -, rfl⟩ |
      ⟨fresh, plannedOrders, childDemands, calculated, exploded, rfl⟩
  · exact worklistInvariant_skip holds popped skipped
  · exact worklistInvariant_mark holds popped fresh
  · obtain ⟨_, -, -, -, each⟩ := calculateComponentMrp_ok calculated
    exact worklistInvariant_plan holds popped fresh (fun plannedOrder member =>
      (each plannedOrder member).1) exploded

end

namespace WorklistInvariant

variable {graph : BomGraph} {demands : List Demand} {state : KernelState}

/-- While items are queued, fewer iterations have run than twice the number
of demanded items and BOM nodes: every item visited is one of those, and each
is popped at most twice. -/
theorem iterations_lt (holds : WorklistInvariant graph demands state)
    (pending : state.componentsToProcess ≠ []) :
    state.iterations < 2 * ((componentKeys demands).length + graph.nodes.length) := by
  have within : ∀ item, item ∈ state.componentsToProcess ∨ item ∈ state.processedComponents →
      item ∈ componentKeys demands ++ graph.nodes := by
    intro item visitedItem
    rcases (holds.visited item).mp visitedItem with demanded | ⟨_, -, child⟩
    · exact List.mem_append_left _ demanded
    · exact List.mem_append_right _ (mem_nodes_of_mem_childItems child)
  obtain ⟨head, queued⟩ := List.exists_mem_of_ne_nil _ pending
  have selfBound : state.processedComponents.countP (SelfLooping graph state.allPlannedOrders ·)
      ≤ state.processedComponents.length := List.countP_le_length _
  have balance := holds.balance
  by_cases done : head ∈ state.processedComponents
  · have fits := (holds.processedNodup.subperm fun item member =>
      within item (.inr member)).length_le
    have queuedDone : 0 < state.componentsToProcess.countP (· ∈ state.processedComponents) :=
      List.countP_pos_iff.mpr ⟨head, queued, by simpa using done⟩
    rw [List.length_append] at fits
    omega
  · have covered : head :: state.processedComponents ⊆ componentKeys demands ++ graph.nodes :=
      List.cons_subset.mpr ⟨within head (.inl queued), fun item member => within item (.inr member)⟩
    have fits := ((List.nodup_cons.mpr ⟨done, holds.processedNodup⟩).subperm covered).length_le
    rw [List.length_cons, List.length_append] at fits
    omega

end WorklistInvariant

/-! ## Runs -/

section

variable (calculator : MrpCalculator) (floatLotSize : ℚ → ℚ) (order : HashOrder)
  (inputs : LoopInputs)

/-- The invariant holds of every state a run reaches. -/
theorem runWorklist_worklistInvariant {demands : List Demand} {fuel : Nat}
    {state final : KernelState} (holds : WorklistInvariant calculator.bomGraph demands state)
    (ran : calculator.runWorklist floatLotSize order inputs fuel state = .ok final) :
    WorklistInvariant calculator.bomGraph demands final :=
  calculator.runWorklist_invariant floatLotSize order inputs _
    (fun _ _ _ _ holds popped stepped => worklistInvariant_step holds popped stepped) holds ran

/-- An iteration keeps the count of iterations and only appends orders. -/
theorem processComponent_iterations_orders {state next : KernelState} {componentId : String}
    (stepped : calculator.processComponent floatLotSize order inputs state componentId =
      .ok next) :
    next.iterations = state.iterations ∧ state.allPlannedOrders <+: next.allPlannedOrders := by
  rcases calculator.processComponent_ok floatLotSize order inputs stepped with
    ⟨-, rfl⟩ | ⟨-, -, rfl⟩ | ⟨-, plannedOrders, childDemands, -, -, rfl⟩
  · exact ⟨rfl, List.prefix_refl _⟩
  · exact ⟨rfl, List.prefix_refl _⟩
  · simp

theorem runWorklist_of_queue_nil {fuel : Nat} {state : KernelState}
    (emptied : state.componentsToProcess = []) :
    calculator.runWorklist floatLotSize order inputs fuel state = .ok state := by
  cases fuel with
  | zero => rfl
  | succ fuel => rw [runWorklist_succ, emptied]

/-- A run that stops with items still queued has used all its fuel. -/
theorem runWorklist_iterations {fuel : Nat} {state final : KernelState}
    (ran : calculator.runWorklist floatLotSize order inputs fuel state = .ok final) :
    final.componentsToProcess = [] ∨ final.iterations = state.iterations + fuel := by
  induction fuel generalizing state with
  | zero => cases ran; exact .inr rfl
  | succ fuel inductionHypothesis =>
      rw [runWorklist_succ] at ran
      split at ran
      case h_1 emptied => cases ran; exact .inl emptied
      case h_2 componentId rest _ =>
        obtain ⟨next, stepped, continued⟩ := Except.bind_eq_ok.mp ran
        have counted := (processComponent_iterations_orders calculator floatLotSize order inputs
          stepped).1
        dsimp only at counted
        rcases inductionHypothesis continued with emptied | used
        · exact .inl emptied
        · exact .inr (by omega)

/-- A run that ends in an error or with an empty queue returns the same with
more fuel. -/
theorem runWorklist_add_fuel {fuel : Nat} {state : KernelState}
    (settled : ∀ final, calculator.runWorklist floatLotSize order inputs fuel state = .ok final →
      final.componentsToProcess = []) (extra : Nat) :
    calculator.runWorklist floatLotSize order inputs (fuel + extra) state =
      calculator.runWorklist floatLotSize order inputs fuel state := by
  induction fuel generalizing state with
  | zero =>
      rw [Nat.zero_add, runWorklist_zero,
        runWorklist_of_queue_nil calculator floatLotSize order inputs (settled state rfl)]
  | succ fuel inductionHypothesis =>
      rw [Nat.add_right_comm, runWorklist_succ, runWorklist_succ]
      cases popped : state.componentsToProcess with
      | nil => rfl
      | cons componentId rest =>
          dsimp only
          cases stepped : calculator.processComponent floatLotSize order inputs
              { state with componentsToProcess := rest, iterations := state.iterations + 1 }
              componentId with
          | error failure => rfl
          | ok next =>
              refine inductionHypothesis (fun final ran => settled final ?_)
              rw [runWorklist_succ, popped]
              dsimp only
              rw [stepped]
              exact ran

/-- Runs of the same loop from the same state agree on the orders they
share: a shorter run's orders are a prefix of a longer run's. -/
theorem runWorklist_orders_prefix {shorter longer : Nat} (fewer : shorter ≤ longer)
    {state early late : KernelState}
    (ranShorter : calculator.runWorklist floatLotSize order inputs shorter state = .ok early)
    (ranLonger : calculator.runWorklist floatLotSize order inputs longer state = .ok late) :
    early.allPlannedOrders <+: late.allPlannedOrders := by
  induction shorter generalizing state longer with
  | zero =>
      cases ranShorter
      exact calculator.runWorklist_invariant floatLotSize order inputs
        (fun reached => early.allPlannedOrders <+: reached.allPlannedOrders)
        (fun _ _ _ _ before _ stepped => before.trans
          (processComponent_iterations_orders calculator floatLotSize order inputs stepped).2)
        (List.prefix_refl _) ranLonger
  | succ shorter inductionHypothesis =>
      obtain ⟨longer, rfl⟩ : ∃ fuel, longer = fuel + 1 := ⟨longer - 1, by omega⟩
      rw [runWorklist_succ] at ranShorter ranLonger
      split at ranShorter
      case h_1 emptied =>
        rw [emptied] at ranLonger
        cases ranShorter; cases ranLonger; exact List.prefix_refl _
      case h_2 componentId rest popped =>
        rw [popped] at ranLonger
        dsimp only at ranLonger
        obtain ⟨next, stepped, continued⟩ := Except.bind_eq_ok.mp ranShorter
        rw [stepped] at ranLonger
        exact inductionHypothesis (by omega) continued ranLonger

end

/-! ## The loop of `calculate` -/

/-- The worklist loop settles within the fuel `calculate` gives it, on every
BOM graph, cycles included: more fuel changes nothing, and when it returns the
queue is empty. Each item is planned at most once and orders once collected
stay as they are. The processed items are exactly those reached, each listed
once, and the loop ran once per reached item and once more per self-looping
one. -/
theorem runWorklist_settles (calculator : MrpCalculator) (floatLotSize : ℚ → ℚ)
    (order : HashOrder) (inputs : LoopInputs) (demands : List Demand) (uuid : Nat) :
    (∀ extra, calculator.runWorklist floatLotSize order inputs
        (calculator.worklistFuel demands + extra)
        (initialState (topologicalSort order demands) uuid) =
      calculator.runWorklist floatLotSize order inputs (calculator.worklistFuel demands)
        (initialState (topologicalSort order demands) uuid)) ∧
    ∀ final, calculator.runWorklist floatLotSize order inputs (calculator.worklistFuel demands)
        (initialState (topologicalSort order demands) uuid) = .ok final →
      final.componentsToProcess = [] ∧ final.plannedComponents.Nodup ∧
      final.processedComponents.Nodup ∧
      (∀ item, item ∈ final.processedComponents ↔
        Reached calculator.bomGraph demands final.allPlannedOrders item) ∧
      final.iterations = final.processedComponents.length +
        final.processedComponents.countP
          (SelfLooping calculator.bomGraph final.allPlannedOrders ·) ∧
      ∀ fuel state, calculator.runWorklist floatLotSize order inputs fuel
          (initialState (topologicalSort order demands) uuid) = .ok state →
        state.allPlannedOrders <+: final.allPlannedOrders := by
  have settled : ∀ final, calculator.runWorklist floatLotSize order inputs
      (calculator.worklistFuel demands) (initialState (topologicalSort order demands) uuid) =
        .ok final → final.componentsToProcess = [] := by
    intro final ran
    rcases runWorklist_iterations calculator floatLotSize order inputs ran with emptied | used
    · exact emptied
    · by_contra pending
      have bounded := (runWorklist_worklistInvariant calculator floatLotSize order inputs
        (worklistInvariant_initialState calculator.bomGraph order demands uuid) ran).iterations_lt
          pending
      simp only [initialState, Nat.zero_add, worklistFuel] at used
      omega
  refine ⟨runWorklist_add_fuel calculator floatLotSize order inputs settled, fun final ran => ?_⟩
  have holds := runWorklist_worklistInvariant calculator floatLotSize order inputs
    (worklistInvariant_initialState calculator.bomGraph order demands uuid) ran
  have emptied := settled final ran
  have balance := holds.balance
  rw [emptied, List.countP_nil, Nat.add_zero] at balance
  refine ⟨emptied, holds.plannedNodup, holds.processedNodup, fun item => ?_, balance,
    fun fuel state ranFuel => ?_⟩
  · simpa [emptied] using holds.visited item
  · rcases le_total fuel (calculator.worklistFuel demands) with fewer | more
    · exact runWorklist_orders_prefix calculator floatLotSize order inputs fewer ranFuel ran
    · obtain ⟨extra, rfl⟩ := Nat.exists_eq_add_of_le more
      rw [runWorklist_add_fuel calculator floatLotSize order inputs settled, ran] at ranFuel
      cases ranFuel
      exact List.prefix_refl _

/-- A plant whose one item is its own BOM child. -/
def selfLoopPlant : MrpCalculator :=
  { bomGraph := ⟨["X"], [(0, 0, 1)]⟩, configs := fun _ => some (MrpConfig.new 0 .make),
    calendar := WorkCalendar.new247 }

/-- Planning the self-looping item queues it again, so the loop of
`calculate` runs twice for its one item. -/
theorem runWorklist_selfLoop_twice :
    (selfLoopPlant.runWorklist (fun _ => 0) .insertion
        (loopInputs [Demand.new 1 "X" 10 5 .salesOrder] [] [])
        (selfLoopPlant.worklistFuel [Demand.new 1 "X" 10 5 .salesOrder])
        (initialState (topologicalSort .insertion [Demand.new 1 "X" 10 5 .salesOrder])
          (firstFreshUuid [Demand.new 1 "X" 10 5 .salesOrder]))).toOption.map
      (fun final => (final.processedComponents, final.allPlannedOrders.length,
        final.iterations)) = some (["X"], 1, 2) := by
  with_unfolding_all decide

end MrpCalculator

end NexusMrp
