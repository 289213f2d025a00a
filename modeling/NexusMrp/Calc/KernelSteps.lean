import NexusMrp.Calc.Calculator

/-!
# One iteration of the kernel

An iteration of the worklist loop either skips an item already processed,
marks an item without demands processed, or plans an item: its orders are
appended, its children queued and fed, and the item marked processed
(`processComponent_ok`). Every run-level fact about the kernel is an
invariant of that step, carried over a run by `runWorklist_invariant`.
-/

namespace NexusMrp

namespace MrpCalculator

section

variable (calculator : MrpCalculator) (floatLotSize : ℚ → ℚ) (order : HashOrder)
  (inputs : LoopInputs)

@[simp] theorem runWorklist_zero (state : KernelState) :
    calculator.runWorklist floatLotSize order inputs 0 state = .ok state :=
  rfl

theorem runWorklist_succ (fuel : Nat) (state : KernelState) :
    calculator.runWorklist floatLotSize order inputs (fuel + 1) state =
      match state.componentsToProcess with
      | [] => .ok state
      | componentId :: rest =>
          calculator.processComponent floatLotSize order inputs
              { state with componentsToProcess := rest, iterations := state.iterations + 1 }
              componentId >>=
            calculator.runWorklist floatLotSize order inputs fuel :=
  rfl

/-- A property every iteration preserves holds of every state a run
reaches. -/
theorem runWorklist_invariant (invariant : KernelState → Prop)
    (preserved : ∀ state componentId rest next, invariant state →
      state.componentsToProcess = componentId :: rest →
      calculator.processComponent floatLotSize order inputs
        { state with componentsToProcess := rest, iterations := state.iterations + 1 }
        componentId = .ok next →
      invariant next)
    {fuel : Nat} {state final : KernelState} (holds : invariant state)
    (ran : calculator.runWorklist floatLotSize order inputs fuel state = .ok final) :
    invariant final := by
  induction fuel generalizing state with
  | zero => cases ran; exact holds
  | succ fuel inductionHypothesis =>
      rw [runWorklist_succ] at ran
      split at ran
      · cases ran; exact holds
      case h_2 componentId rest popped =>
        obtain ⟨next, stepped, continued⟩ := Except.bind_eq_ok.mp ran
        exact inductionHypothesis (preserved state componentId rest next holds popped stepped)
          continued

/-- What one iteration can do: skip a processed item, mark an item without
demands processed, or plan an item. -/
theorem processComponent_ok {state next : KernelState} {componentId : String}
    (processed : calculator.processComponent floatLotSize order inputs state componentId =
      .ok next) :
    (componentId ∈ state.processedComponents ∧ next = state) ∨
    (componentId ∉ state.processedComponents ∧
      inputs.groupedDemands componentId ++ state.dependentDemands componentId = [] ∧
      next = { state with processedComponents := componentId :: state.processedComponents }) ∨
    (componentId ∉ state.processedComponents ∧
      ∃ plannedOrders childDemands,
        calculator.calculateComponentMrp floatLotSize componentId
            (inputs.groupedDemands componentId ++ state.dependentDemands componentId)
            inputs.groupedSupplies inputs.inventoryMap inputs.timeBuckets state.nextUuid =
          .ok plannedOrders ∧
        calculator.explodeBom componentId plannedOrders
            (state.nextUuid + plannedOrders.length) = .ok childDemands ∧
        next = recordPlan order state componentId plannedOrders childDemands) := by
  rw [processComponent] at processed
  split_ifs at processed with alreadyProcessed noDemands
  · cases processed; exact .inl ⟨alreadyProcessed, rfl⟩
  · cases processed; exact .inr (.inl ⟨alreadyProcessed, noDemands, rfl⟩)
  · obtain ⟨plannedOrders, planned, exploded⟩ := Except.bind_eq_ok.mp processed
    obtain ⟨childDemands, explodedOk, recorded⟩ := Except.bind_eq_ok.mp exploded
    cases recorded
    exact .inr (.inr ⟨alreadyProcessed, plannedOrders, childDemands, planned, explodedOk, rfl⟩)

end

/-! ## Field lemmas for planning an item -/

section

variable {state : KernelState} {childKeys : List String} {childDemands : List Demand}

@[simp] theorem enqueueChildren_processedComponents :
    (enqueueChildren state childKeys childDemands).processedComponents =
      state.processedComponents := by
  induction childKeys generalizing state with
  | nil => rfl
  | cons _ _ inductionHypothesis => exact inductionHypothesis

@[simp] theorem enqueueChildren_allPlannedOrders :
    (enqueueChildren state childKeys childDemands).allPlannedOrders =
      state.allPlannedOrders := by
  induction childKeys generalizing state with
  | nil => rfl
  | cons _ _ inductionHypothesis => exact inductionHypothesis

@[simp] theorem enqueueChildren_plannedComponents :
    (enqueueChildren state childKeys childDemands).plannedComponents =
      state.plannedComponents := by
  induction childKeys generalizing state with
  | nil => rfl
  | cons _ _ inductionHypothesis => exact inductionHypothesis

@[simp] theorem enqueueChildren_nextUuid :
    (enqueueChildren state childKeys childDemands).nextUuid = state.nextUuid := by
  induction childKeys generalizing state with
  | nil => rfl
  | cons _ _ inductionHypothesis => exact inductionHypothesis

@[simp] theorem enqueueChildren_iterations :
    (enqueueChildren state childKeys childDemands).iterations = state.iterations := by
  induction childKeys generalizing state with
  | nil => rfl
  | cons _ _ inductionHypothesis => exact inductionHypothesis

/-- Children are queued in the map's order, each unless it is processed or
already queued. -/
theorem enqueueChildren_componentsToProcess (distinctKeys : childKeys.Nodup) :
    (enqueueChildren state childKeys childDemands).componentsToProcess =
      state.componentsToProcess ++
        childKeys.filter fun childId =>
          childId ∉ state.processedComponents ∧ childId ∉ state.componentsToProcess := by
  induction childKeys generalizing state with
  | nil => simp [enqueueChildren]
  | cons childId rest inductionHypothesis =>
      rw [List.nodup_cons] at distinctKeys
      have restOk := @inductionHypothesis (enqueueChild state childId
        (groupDemandsByComponent childDemands childId)) distinctKeys.2
      simp only [enqueueChildren, List.foldl_cons] at restOk ⊢
      rw [restOk]
      have sameChecks : rest.filter (fun other =>
            other ∉ state.processedComponents ∧
              other ∉ (enqueueChild state childId
                (groupDemandsByComponent childDemands childId)).componentsToProcess) =
          rest.filter fun other =>
            other ∉ state.processedComponents ∧ other ∉ state.componentsToProcess := by
        apply List.filter_congr
        intro other member
        have differs : other ≠ childId := fun same => distinctKeys.1 (same ▸ member)
        simp [enqueueChild]
        split_ifs <;> simp [differs]
      simp only [enqueueChild] at sameChecks ⊢
      rw [sameChecks]
      split_ifs with fresh <;> simp [List.filter_cons, fresh]

/-- Each child's demands are appended once to its accumulated dependent
demands. -/
theorem enqueueChildren_dependentDemands (distinctKeys : childKeys.Nodup) (item : String) :
    (enqueueChildren state childKeys childDemands).dependentDemands item =
      state.dependentDemands item ++
        if item ∈ childKeys then groupDemandsByComponent childDemands item else [] := by
  induction childKeys generalizing state with
  | nil => simp [enqueueChildren]
  | cons childId rest inductionHypothesis =>
      rw [List.nodup_cons] at distinctKeys
      have restOk := @inductionHypothesis (enqueueChild state childId
        (groupDemandsByComponent childDemands childId)) distinctKeys.2
      simp only [enqueueChildren, List.foldl_cons] at restOk ⊢
      rw [restOk]
      by_cases same : item = childId
      · subst same
        simp [enqueueChild, distinctKeys.1]
      · simp [enqueueChild, same]

@[simp] theorem recordPlan_allPlannedOrders (order : HashOrder) (componentId : String)
    (plannedOrders : List PlannedOrder) :
    (recordPlan order state componentId plannedOrders childDemands).allPlannedOrders =
      state.allPlannedOrders ++ plannedOrders := by
  simp [recordPlan]

@[simp] theorem recordPlan_processedComponents (order : HashOrder) (componentId : String)
    (plannedOrders : List PlannedOrder) :
    (recordPlan order state componentId plannedOrders childDemands).processedComponents =
      componentId :: state.processedComponents := by
  simp [recordPlan]

@[simp] theorem recordPlan_plannedComponents (order : HashOrder) (componentId : String)
    (plannedOrders : List PlannedOrder) :
    (recordPlan order state componentId plannedOrders childDemands).plannedComponents =
      state.plannedComponents ++ [componentId] := by
  simp [recordPlan]

@[simp] theorem recordPlan_nextUuid (order : HashOrder) (componentId : String)
    (plannedOrders : List PlannedOrder) :
    (recordPlan order state componentId plannedOrders childDemands).nextUuid =
      state.nextUuid + plannedOrders.length + childDemands.length := by
  simp [recordPlan]

@[simp] theorem recordPlan_iterations (order : HashOrder) (componentId : String)
    (plannedOrders : List PlannedOrder) :
    (recordPlan order state componentId plannedOrders childDemands).iterations =
      state.iterations := by
  simp [recordPlan]

/-- Planning an item appends to each child's dependent demands those it
exploded for that child. -/
theorem recordPlan_dependentDemands (order : HashOrder) (componentId : String)
    (plannedOrders : List PlannedOrder) (item : String) :
    (recordPlan order state componentId plannedOrders childDemands).dependentDemands item =
      state.dependentDemands item ++ groupDemandsByComponent childDemands item := by
  have distinctKeys : (order.childKeys componentId (componentKeys childDemands)).Nodup :=
    (order.childKeys_perm _ _).nodup_iff.mpr (List.nodup_dedup _)
  simp only [recordPlan]
  rw [enqueueChildren_dependentDemands distinctKeys]
  split_ifs with keyed
  · rfl
  · have noneFor : groupDemandsByComponent childDemands item = [] := by
      refine List.filter_eq_nil_iff.mpr fun demand member same => keyed ?_
      refine (order.childKeys_perm _ _).mem_iff.mpr (List.mem_dedup.mpr ?_)
      exact List.mem_map.mpr ⟨demand, member, by simpa using same⟩
    rw [noneFor]

/-- Planning an item queues its children that are neither processed nor
queued, in the order the child map yields them. -/
theorem recordPlan_componentsToProcess (order : HashOrder) (componentId : String)
    (plannedOrders : List PlannedOrder) :
    (recordPlan order state componentId plannedOrders childDemands).componentsToProcess =
      state.componentsToProcess ++
        (order.childKeys componentId (componentKeys childDemands)).filter fun childId =>
          childId ∉ state.processedComponents ∧ childId ∉ state.componentsToProcess := by
  simp only [recordPlan]
  exact enqueueChildren_componentsToProcess
    ((order.childKeys_perm _ _).nodup_iff.mpr (List.nodup_dedup _))

end

end MrpCalculator

end NexusMrp
