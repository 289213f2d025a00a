import Mathlib.Algebra.Order.Field.Rat
import Mathlib.Data.Rat.Floor

/-!
# Records of the planning kernel

The data model of the `mrp-core` crate, with the fields the kernel reads.
Quantities (`rust_decimal::Decimal`) are exact rationals, dates
(`chrono::NaiveDate`) are integers counting days from 1970-01-01, a Thursday,
and identifiers (`uuid::Uuid`) are natural numbers that the caller of a
constructor draws fresh.
-/

namespace NexusMrp

/-- `mrp_core::MrpError`. -/
inductive MrpError
  | configNotFound (componentId : String)
  | bomExplosionError (message : String)
  | topologicalSortError (message : String)
  | missingLotSize
  | invalidDate (message : String)
  | calculationError (message : String)
  | other (message : String)
  deriving DecidableEq, Repr

/-- How a call ends when it does not return `Ok`: it returns an `Err`, or the
process panics with a message. -/
inductive Failure
  | err (error : MrpError)
  | panic (message : String)
  deriving DecidableEq, Repr

/-- A bind that returns `Ok` ran its first computation to `Ok`. -/
theorem Except.bind_eq_ok {ε α β : Type} {first : Except ε α} {next : α → Except ε β}
    {result : β} :
    first >>= next = .ok result ↔ ∃ value, first = .ok value ∧ next value = .ok result := by
  cases first <;> simp [bind, Except.bind]

/-- A map over a computation that returns `Ok` ran it to `Ok`. -/
theorem Except.map_eq_ok {ε α β : Type} {computation : Except ε α} {function : α → β}
    {result : β} :
    function <$> computation = .ok result ↔
      ∃ value, computation = .ok value ∧ function value = result := by
  cases computation <;> simp [Functor.map, Except.map]

/-- A bind that fails failed in its first computation or in the next. -/
theorem Except.bind_eq_error {ε α β : Type} {first : Except ε α} {next : α → Except ε β}
    {error : ε} :
    first >>= next = .error error ↔
      first = .error error ∨ ∃ value, first = .ok value ∧ next value = .error error := by
  cases first <;> simp [bind, Except.bind]

/-- A map over a computation that fails failed in the computation. -/
theorem Except.map_eq_error {ε α β : Type} {computation : Except ε α} {function : α → β}
    {error : ε} :
    function <$> computation = .error error ↔ computation = .error error := by
  cases computation <;> simp [Functor.map, Except.map]

/-- `DemandType`. -/
inductive DemandType
  | salesOrder
  | forecast
  | safetyStock
  | dependent
  deriving DecidableEq, Repr

/-- `Demand`; the `priority` and `plant_id` fields are read by no modelled
function. -/
structure Demand where
  id : Nat
  componentId : String
  quantity : ℚ
  requiredDate : Int
  demandType : DemandType
  sourceRef : Option String
  deriving DecidableEq, Repr

/-- `Demand::new`, with the fresh identifier passed in. -/
def Demand.new (id : Nat) (componentId : String) (quantity : ℚ)
    (requiredDate : Int) (demandType : DemandType) : Demand :=
  { id, componentId, quantity, requiredDate, demandType, sourceRef := none }

/-- `Demand::with_source_ref`. -/
def Demand.withSourceRef (demand : Demand) (sourceRef : String) : Demand :=
  { demand with sourceRef := some sourceRef }

/-- `Supply`; its identifier, type, reference and firm flag are read by no
modelled function. -/
structure Supply where
  componentId : String
  quantity : ℚ
  availableDate : Int
  deriving DecidableEq, Repr

/-- `Inventory`; the warehouse is read by no modelled function. -/
structure Inventory where
  componentId : String
  onHandQty : ℚ
  safetyStock : ℚ
  allocatedQty : ℚ
  availableQty : ℚ
  deriving DecidableEq, Repr

/-- `Inventory::new`. -/
def Inventory.new (componentId : String) (onHandQty safetyStock : ℚ) :
    Inventory :=
  { componentId, onHandQty, safetyStock, allocatedQty := 0,
    availableQty := onHandQty }

/-- `ProcurementType`. -/
inductive ProcurementType
  | buy
  | make
  | transfer
  deriving DecidableEq, Repr

/-- `LotSizingRule`. -/
inductive LotSizingRule
  | lotForLot
  | fixedOrderQuantity
  | economicOrderQuantity
  | periodOrderQuantity
  | minMax
  deriving DecidableEq, Repr

/-- `MrpConfig`; `component_id` and `planning_horizon_days` are read by no
modelled function (the horizon only reaches an unused parameter of
`create_time_buckets`). -/
structure MrpConfig where
  leadTimeDays : Nat
  lotSizingRule : LotSizingRule
  fixedLotSize : Option ℚ
  minimumOrderQty : Option ℚ
  maximumOrderQty : Option ℚ
  orderMultiple : Option ℚ
  safetyStock : ℚ
  procurementType : ProcurementType
  mrpEnabled : Bool
  allowNegativeInventory : Bool
  deriving DecidableEq, Repr

/-- `MrpConfig::new`, with its defaults. -/
def MrpConfig.new (leadTimeDays : Nat) (procurementType : ProcurementType) :
    MrpConfig :=
  { leadTimeDays, lotSizingRule := .lotForLot, fixedLotSize := none,
    minimumOrderQty := none, maximumOrderQty := none, orderMultiple := none,
    safetyStock := 0, procurementType, mrpEnabled := true,
    allowNegativeInventory := false }

/-- `MrpConfig::needs_mrp`. -/
def MrpConfig.needsMrp (config : MrpConfig) : Bool :=
  config.mrpEnabled

/-- `PlannedOrderType`. -/
inductive PlannedOrderType
  | purchase
  | production
  | transfer
  deriving DecidableEq, Repr

/-- `PlannedOrder`; `source_id` and `pegging` stay empty in every order the
kernel builds and are left out. -/
structure PlannedOrder where
  id : Nat
  componentId : String
  quantity : ℚ
  requiredDate : Int
  orderDate : Int
  orderType : PlannedOrderType
  deriving DecidableEq, Repr

/-- `PlannedOrder::new`, with the fresh identifier passed in. -/
def PlannedOrder.new (id : Nat) (componentId : String) (quantity : ℚ)
    (requiredDate orderDate : Int) (orderType : PlannedOrderType) :
    PlannedOrder :=
  { id, componentId, quantity, requiredDate, orderDate, orderType }

/-- An order with its identifier cleared, for comparing plans up to ids. -/
def PlannedOrder.eraseId (order : PlannedOrder) : PlannedOrder :=
  { order with id := 0 }

/-- `PeggingRecord`. -/
structure PeggingRecord where
  demandId : Nat
  quantity : ℚ
  path : List String
  deriving DecidableEq, Repr

/-- `PeggingRecord::new` followed by `with_path`. -/
def PeggingRecord.new (demandId : Nat) (quantity : ℚ)
    (path : List String) : PeggingRecord :=
  { demandId, quantity, path }

end NexusMrp
