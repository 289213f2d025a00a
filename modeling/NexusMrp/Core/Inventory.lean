import NexusMrp.Core.Model

/-!
# Inventory allocation

`Inventory::allocate` locks stock and `Inventory::deallocate` releases it.
Both take `&mut self` and return `Result<(), String>`: a quantity above what is
available, or above what is allocated, is refused with a message before any
field is written; otherwise the allocation moves and `available_qty` is
recomputed as `on_hand_qty - allocated_qty`. The model returns the result
together with the record the call leaves behind.

Neither method rejects a negative quantity, so allocating one releases stock
and deallocating one locks it; the bounds of the data model
(`0 ≤ allocated_qty ≤ on_hand_qty`) survive every sequence of calls with
nonnegative quantities, and no longer.
-/

namespace NexusMrp

/-- The messages of `allocate` and `deallocate`, with the quantities they
format. -/
inductive AllocationError
  /-- `庫存不足：需要 <quantity>, 可用 <available>` -/
  | insufficient (quantity available : ℚ)
  /-- `釋放數量超過已分配數量：釋放 <quantity>, 已分配 <allocated>` -/
  | overRelease (quantity allocated : ℚ)
  deriving DecidableEq, Repr

namespace Inventory

/-- `Inventory::with_allocated_qty`. -/
def withAllocatedQty (inventory : Inventory) (allocatedQty : ℚ) : Inventory :=
  { inventory with allocatedQty, availableQty := inventory.onHandQty - allocatedQty }

/-- `Inventory::calculate_available`. -/
def calculateAvailable (inventory : Inventory) : Inventory :=
  { inventory with availableQty := inventory.onHandQty - inventory.allocatedQty }

/-- `Inventory::is_below_safety_stock`. -/
def isBelowSafetyStock (inventory : Inventory) : Bool :=
  decide (inventory.availableQty < inventory.safetyStock)

/-- `Inventory::replenishment_needed`. -/
def replenishmentNeeded (inventory : Inventory) : ℚ :=
  if inventory.isBelowSafetyStock then inventory.safetyStock - inventory.availableQty else 0

/-- `Inventory::allocate`: the result and the record left behind. -/
def allocate (inventory : Inventory) (quantity : ℚ) : Except AllocationError Unit × Inventory :=
  if quantity > inventory.availableQty then
    (.error (.insufficient quantity inventory.availableQty), inventory)
  else
    (.ok (), { inventory with allocatedQty := inventory.allocatedQty + quantity }.calculateAvailable)

/-- `Inventory::deallocate`: the result and the record left behind. -/
def deallocate (inventory : Inventory) (quantity : ℚ) : Except AllocationError Unit × Inventory :=
  if quantity > inventory.allocatedQty then
    (.error (.overRelease quantity inventory.allocatedQty), inventory)
  else
    (.ok (), { inventory with allocatedQty := inventory.allocatedQty - quantity }.calculateAvailable)

/-- A call a client makes on an inventory record. -/
inductive Call
  | allocate (quantity : ℚ)
  | deallocate (quantity : ℚ)
  deriving DecidableEq, Repr

/-- The quantity a call passes. -/
def Call.quantity : Call → ℚ
  | .allocate quantity => quantity
  | .deallocate quantity => quantity

/-- A call applied to a record: its result and the record it leaves. -/
def Call.apply : Call → Inventory → Except AllocationError Unit × Inventory
  | .allocate quantity, inventory => inventory.allocate quantity
  | .deallocate quantity, inventory => inventory.deallocate quantity

/-- The record a sequence of calls leaves, each call made on the record the
previous one left, whatever it returned. -/
def run (inventory : Inventory) : List Call → Inventory
  | [] => inventory
  | call :: calls => run (call.apply inventory).2 calls

/-- The bounds the data model states for an inventory record, with the
available quantity in step with the other two. -/
structure Consistent (inventory : Inventory) : Prop where
  allocatedNonneg : 0 ≤ inventory.allocatedQty
  allocatedLe : inventory.allocatedQty ≤ inventory.onHandQty
  availableEq : inventory.availableQty = inventory.onHandQty - inventory.allocatedQty

instance (inventory : Inventory) : Decidable inventory.Consistent :=
  decidable_of_iff (0 ≤ inventory.allocatedQty ∧ inventory.allocatedQty ≤ inventory.onHandQty ∧
      inventory.availableQty = inventory.onHandQty - inventory.allocatedQty)
    ⟨fun ⟨nonneg, le, eq⟩ => ⟨nonneg, le, eq⟩, fun ⟨nonneg, le, eq⟩ => ⟨nonneg, le, eq⟩⟩

/-- A record built by `new` from a nonnegative stock is consistent. -/
theorem new_consistent (componentId : String) {onHandQty : ℚ} (onHandNonneg : 0 ≤ onHandQty)
    (safetyStock : ℚ) : (Inventory.new componentId onHandQty safetyStock).Consistent :=
  ⟨le_rfl, onHandNonneg, by simp [Inventory.new]⟩

/-- The replenishment is the shortfall of the available stock below the
safety stock. -/
theorem replenishmentNeeded_eq_max (inventory : Inventory) :
    inventory.replenishmentNeeded = max 0 (inventory.safetyStock - inventory.availableQty) := by
  unfold replenishmentNeeded isBelowSafetyStock
  split_ifs with below
  · rw [max_eq_right (by simp at below; linarith)]
  · rw [max_eq_left (by simp at below; linarith)]

section

variable {inventory : Inventory} {quantity : ℚ}

theorem allocate_of_lt (refused : inventory.availableQty < quantity) :
    inventory.allocate quantity =
      (.error (.insufficient quantity inventory.availableQty), inventory) :=
  if_pos refused

theorem allocate_of_le (accepted : quantity ≤ inventory.availableQty) :
    inventory.allocate quantity =
      (.ok (), { inventory with
        allocatedQty := inventory.allocatedQty + quantity,
        availableQty := inventory.onHandQty - (inventory.allocatedQty + quantity) }) :=
  if_neg (not_lt.mpr accepted)

theorem deallocate_of_lt (refused : inventory.allocatedQty < quantity) :
    inventory.deallocate quantity =
      (.error (.overRelease quantity inventory.allocatedQty), inventory) :=
  if_pos refused

theorem deallocate_of_le (accepted : quantity ≤ inventory.allocatedQty) :
    inventory.deallocate quantity =
      (.ok (), { inventory with
        allocatedQty := inventory.allocatedQty - quantity,
        availableQty := inventory.onHandQty - (inventory.allocatedQty - quantity) }) :=
  if_neg (not_lt.mpr accepted)

end

/-- Every call that fails leaves every field of the record as it was. -/
theorem Call.apply_error (call : Call) (inventory : Inventory) {error : AllocationError}
    (fails : (call.apply inventory).1 = .error error) :
    (call.apply inventory).2 = inventory := by
  cases call with
  | allocate quantity =>
      rcases lt_or_le inventory.availableQty quantity with refused | accepted
      · simp only [Call.apply, allocate_of_lt refused]
      · simp [Call.apply, allocate_of_le accepted] at fails
  | deallocate quantity =>
      rcases lt_or_le inventory.allocatedQty quantity with refused | accepted
      · simp only [Call.apply, deallocate_of_lt refused]
      · simp [Call.apply, deallocate_of_le accepted] at fails

/-- Allocating a negative quantity on a fresh record succeeds and leaves a
negative allocation. -/
theorem allocate_negative_quantity :
    (Inventory.new "FRAME-001" 100 10).Consistent ∧
      (Inventory.new "FRAME-001" 100 10).allocate (-5) =
        (.ok (), { Inventory.new "FRAME-001" 100 10 with
          allocatedQty := -5, availableQty := 105 }) ∧
      ¬((Inventory.new "FRAME-001" 100 10).run [.allocate (-5)]).Consistent := by
  have accepted : (-5 : ℚ) ≤ (Inventory.new "FRAME-001" 100 10).availableQty := by
    norm_num [Inventory.new]
  have allocates := allocate_of_le accepted
  refine ⟨new_consistent _ (by norm_num) _, by rw [allocates]; norm_num [Inventory.new],
    fun consistent => ?_⟩
  have negative := consistent.allocatedNonneg
  simp only [run, Call.apply, allocates] at negative
  norm_num [Inventory.new] at negative

end Inventory

end NexusMrp
