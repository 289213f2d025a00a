import NexusMrp.Calc.LotSizing
import NexusMrp.Calc.Pegging

/-!
# The planning kernel

`MrpCalculator::calculate` groups the inputs by item, seeds a work queue with
the items that have independent demand, and pops items one at a time: an item
already processed is skipped; otherwise its independent and accumulated
dependent demands are netted and lot-sized, its new orders are exploded
through the BOM into dependent demands of its children, children neither
processed nor queued are pushed, and the item is marked processed. Pegging
runs last, over the input demands.

The kernel iterates two kinds of `HashMap`, whose order Rust seeds per
process: the grouped demands behind `topological_sort`, and the child map
`explode_bom` returns. `HashOrder` fixes one such order; every result below
holds for all of them. Identifiers of new orders and demands come from a
counter, so they are fresh. The state also keeps two auxiliary records the
code does not: the items handed to `calculate_component_mrp`, in order, and
the number of iterations.
-/

namespace NexusMrp

/-- The BOM arena the kernel reads through `find_node`, `children` and `node`:
node `i` holds the item `nodes[i]`, and `edges` lists
`(parent, child, quantity per)`. -/
structure BomGraph where
  nodes : List String
  edges : List (Nat × Nat × ℚ)

namespace BomGraph

/-- `arena().find_node`. -/
def findNode (graph : BomGraph) (componentId : String) : Option Nat :=
  graph.nodes.indexOf? componentId

/-- `arena().children`: child nodes with their quantity per assembly. -/
def children (graph : BomGraph) (parent : Nat) : List (Nat × ℚ) :=
  (graph.edges.filter (·.1 = parent)).map fun edge => (edge.2.1, edge.2.2)

/-- `arena().node`. -/
def node (graph : BomGraph) (index : Nat) : Option String :=
  graph.nodes[index]?

end BomGraph

/-- The iteration orders of the kernel's hash maps: `demandKeys` for the
grouped independent demands, `childKeys parent` for the child map exploded
from `parent`'s orders. -/
structure HashOrder where
  demandKeys : List String → List String
  childKeys : String → List String → List String
  demandKeys_perm : ∀ keys, (demandKeys keys).Perm keys
  childKeys_perm : ∀ parent keys, (childKeys parent keys).Perm keys

namespace HashOrder

/-- Every map yields its keys in the order they were first inserted. -/
def insertion : HashOrder where
  demandKeys := id
  childKeys _ keys := keys
  demandKeys_perm _ := List.Perm.refl _
  childKeys_perm _ _ := List.Perm.refl _

/-- The grouped demands yield their items in reverse insertion order. -/
def reversed : HashOrder where
  demandKeys := List.reverse
  childKeys _ keys := keys
  demandKeys_perm := List.reverse_perm
  childKeys_perm _ _ := List.Perm.refl _

end HashOrder

/-- `MrpCalculator`. -/
structure MrpCalculator where
  bomGraph : BomGraph
  configs : String → Option MrpConfig
  calendar : WorkCalendar

/-- `MrpResult`; its warnings stay empty and its timing is wall-clock time,
so both are left out. -/
structure MrpResult where
  plannedOrders : List PlannedOrder
  pegging : List (Nat × List PeggingRecord)
  deriving DecidableEq, Repr

/-- The local state of the worklist loop, with the two auxiliary records. -/
structure KernelState where
  componentsToProcess : List String
  processedComponents : List String
  dependentDemands : String → List Demand
  allPlannedOrders : List PlannedOrder
  nextUuid : Nat
  plannedComponents : List String
  iterations : Nat

/-- What the worklist loop reads and never changes. -/
structure LoopInputs where
  groupedDemands : String → List Demand
  groupedSupplies : String → List Supply
  inventoryMap : String → Option Inventory
  timeBuckets : List Int

/-- The items of a list of demands, each once: the keys of a map built by
pushing every demand under its item. -/
def componentKeys (demands : List Demand) : List String :=
  (demands.map (·.componentId)).dedup

namespace MrpCalculator

/-- `group_demands_by_component`, looked up at an item. -/
def groupDemandsByComponent (demands : List Demand) (componentId : String) :
    List Demand :=
  demands.filter (·.componentId = componentId)

/-- `group_supplies_by_component`, looked up at an item. -/
def groupSuppliesByComponent (supplies : List Supply) (componentId : String) :
    List Supply :=
  supplies.filter (·.componentId = componentId)

/-- `create_inventory_map`, looked up at an item: a later record of an item
replaces an earlier one. -/
def createInventoryMap (inventories : List Inventory) (componentId : String) :
    Option Inventory :=
  inventories.reverse.find? (·.componentId = componentId)

/-- `topological_sort`: the temporary implementation returns the keys of the
grouped demands in the order the map yields them. -/
def topologicalSort (order : HashOrder) (demands : List Demand) : List String :=
  order.demandKeys (componentKeys demands)

/-- The net requirements `calculate_component_mrp` computes for an item over
its merged time axis. -/
def componentNetRequirements (config : MrpConfig) (componentDemands : List Demand)
    (componentSupplies : List Supply) (initialInventory : ℚ)
    (timeBuckets : List Int) : List NetRequirement :=
  NettingCalculator.calculate componentDemands componentSupplies initialInventory
    config.safetyStock
    (createComponentTimeBuckets timeBuckets componentDemands componentSupplies)
    config.allowNegativeInventory

/-- `calculate_component_mrp`; `floatLotSize` is the `f64` lot of
`economic_order_quantity`. -/
def calculateComponentMrp (calculator : MrpCalculator) (floatLotSize : ℚ → ℚ)
    (componentId : String) (componentDemands : List Demand)
    (groupedSupplies : String → List Supply) (inventoryMap : String → Option Inventory)
    (timeBuckets : List Int) (uuid : Nat) : Except Failure (List PlannedOrder) :=
  match calculator.configs componentId with
  | none => throw (.err (.configNotFound componentId))
  | some config =>
      if !config.needsMrp then pure []
      else
        let componentSupplies := groupedSupplies componentId
        let initialInventory := ((inventoryMap componentId).map (·.availableQty)).getD 0
        LotSizingCalculator.apply floatLotSize componentId
          (componentNetRequirements config componentDemands componentSupplies
            initialInventory timeBuckets)
          config calculator.calendar uuid

/-- The dependent demands one order creates, one per child, with fresh ids
from `uuid`. -/
def explodeOrder (graph : BomGraph) (parentId : String) (order : PlannedOrder) :
    Nat → List (Nat × ℚ) → Except Failure (List Demand)
  | _, [] => pure []
  | uuid, (childNodeIdx, quantityPer) :: rest => do
      let some childId := graph.node childNodeIdx
        | throw (.err (.bomExplosionError "無法獲取子件節點"))
      let demand := (Demand.new uuid childId (order.quantity * quantityPer) order.orderDate
        .dependent).withSourceRef (parentId ++ ":" ++ toString order.id)
      return demand :: (← explodeOrder graph parentId order (uuid + 1) rest)

/-- The loop of `explode_bom` over the orders. -/
def explodeOrders (graph : BomGraph) (parentId : String) (children : List (Nat × ℚ)) :
    Nat → List PlannedOrder → Except Failure (List Demand)
  | _, [] => pure []
  | uuid, order :: rest => do
      let first ← explodeOrder graph parentId order uuid children
      return first ++ (← explodeOrders graph parentId children (uuid + children.length) rest)

/-- `explode_bom`: the child demands in the order they are created; the map
it returns groups them by item. -/
def explodeBom (calculator : MrpCalculator) (parentId : String)
    (plannedOrders : List PlannedOrder) (uuid : Nat) : Except Failure (List Demand) :=
  if plannedOrders = [] then pure []
  else
    match calculator.bomGraph.findNode parentId with
    | none => pure []
    | some parentNode =>
        let children := calculator.bomGraph.children parentNode
        if children = [] then pure []
        else explodeOrders calculator.bomGraph parentId children uuid plannedOrders

/-- The body of the inner `for` over the child map: queue the child unless it
is processed or queued, and append its demands. -/
def enqueueChild (state : KernelState) (childId : String) (childDemandList : List Demand) :
    KernelState :=
  { state with
    componentsToProcess :=
      if childId ∉ state.processedComponents ∧ childId ∉ state.componentsToProcess then
        state.componentsToProcess ++ [childId]
      else state.componentsToProcess
    dependentDemands := fun item =>
      if item = childId then state.dependentDemands item ++ childDemandList
      else state.dependentDemands item }

/-- The inner `for` over the child map, in the order the map yields its
keys. -/
def enqueueChildren (state : KernelState) (childKeys : List String)
    (childDemands : List Demand) : KernelState :=
  childKeys.foldl
    (fun current childId =>
      enqueueChild current childId (groupDemandsByComponent childDemands childId))
    state

/-- The rest of an iteration once an item has been planned: collect its orders,
queue and feed its children, and mark it processed. -/
def recordPlan (order : HashOrder) (state : KernelState) (componentId : String)
    (plannedOrders : List PlannedOrder) (childDemands : List Demand) : KernelState :=
  let planned : KernelState :=
    { state with
      allPlannedOrders := state.allPlannedOrders ++ plannedOrders
      nextUuid := state.nextUuid + plannedOrders.length + childDemands.length
      plannedComponents := state.plannedComponents ++ [componentId] }
  let enqueued := enqueueChildren planned
    (order.childKeys componentId (componentKeys childDemands)) childDemands
  { enqueued with processedComponents := componentId :: enqueued.processedComponents }

/-- One iteration of the worklist loop on the popped item, from the state
with the item already removed from the queue; the item's demands are its
independent demands followed by its accumulated dependent ones. -/
def processComponent (calculator : MrpCalculator) (floatLotSize : ℚ → ℚ) (order : HashOrder)
    (inputs : LoopInputs) (state : KernelState) (componentId : String) :
    Except Failure KernelState :=
  if componentId ∈ state.processedComponents then pure state
  else if inputs.groupedDemands componentId ++ state.dependentDemands componentId = [] then
    pure { state with processedComponents := componentId :: state.processedComponents }
  else do
    let plannedOrders ← calculator.calculateComponentMrp floatLotSize componentId
      (inputs.groupedDemands componentId ++ state.dependentDemands componentId)
      inputs.groupedSupplies inputs.inventoryMap inputs.timeBuckets state.nextUuid
    let childDemands ← calculator.explodeBom componentId plannedOrders
      (state.nextUuid + plannedOrders.length)
    pure (recordPlan order state componentId plannedOrders childDemands)

/-- The worklist loop, for at most `fuel` iterations. -/
def runWorklist (calculator : MrpCalculator) (floatLotSize : ℚ → ℚ) (order : HashOrder)
    (inputs : LoopInputs) : Nat → KernelState → Except Failure KernelState
  | 0, state => pure state
  | fuel + 1, state =>
      match state.componentsToProcess with
      | [] => pure state
      | componentId :: rest => do
          let next ← calculator.processComponent floatLotSize order inputs
            { state with componentsToProcess := rest, iterations := state.iterations + 1 }
            componentId
          calculator.runWorklist floatLotSize order inputs fuel next

/-- The state the loop starts from. -/
def initialState (sortedComponents : List String) (uuid : Nat) : KernelState :=
  { componentsToProcess := sortedComponents, processedComponents := [],
    dependentDemands := fun _ => [], allPlannedOrders := [], nextUuid := uuid,
    plannedComponents := [], iterations := 0 }

/-- The inputs the loop reads. -/
def loopInputs (demands : List Demand) (supplies : List Supply)
    (inventories : List Inventory) : LoopInputs :=
  { groupedDemands := groupDemandsByComponent demands,
    groupedSupplies := groupSuppliesByComponent supplies,
    inventoryMap := createInventoryMap inventories,
    timeBuckets := BucketingCalculator.createTimeBuckets demands supplies }

/-- A first identifier above every input demand's. -/
def firstFreshUuid (demands : List Demand) : Nat :=
  (demands.map (·.id)).foldr max 0 + 1

/-- Iterations enough for any run: every item is a demanded item or a BOM
node, and is popped at most twice. -/
def worklistFuel (calculator : MrpCalculator) (demands : List Demand) : Nat :=
  2 * ((componentKeys demands).length + calculator.bomGraph.nodes.length)

/-- `MrpCalculator::calculate`. -/
def calculate (calculator : MrpCalculator) (floatLotSize : ℚ → ℚ) (order : HashOrder)
    (demands : List Demand) (supplies : List Supply) (inventories : List Inventory) :
    Except Failure MrpResult := do
  let final ← calculator.runWorklist floatLotSize order (loopInputs demands supplies inventories)
    (calculator.worklistFuel demands)
    (initialState (topologicalSort order demands) (firstFreshUuid demands))
  return { plannedOrders := final.allPlannedOrders,
           pegging := PeggingCalculator.perform final.allPlannedOrders demands .multiLevel }

end MrpCalculator

end NexusMrp
