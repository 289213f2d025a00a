import NexusMrp.Calc.Netting
import NexusMrp.Core.Config
import NexusMrp.Core.Calendar

/-!
# Lot sizing

`LotSizingCalculator::apply` dispatches on the configured rule. Every rule
walks the net-requirement rows and decides order lines, a required date and a
quantity each; every order line then becomes a `PlannedOrder` whose order date
is the required date less the lead time in working days (`placeOrders`). No
quantity of any rule reads an order date, so deciding the lines first and
placing them afterwards yields the orders, and the first panic, of the
interleaved loops of the source.
-/

namespace NexusMrp

namespace LotSizingCalculator

/-- `LotSizingCalculator::determine_order_type`. -/
def determineOrderType : ProcurementType → PlannedOrderType
  | .buy => .purchase
  | .make => .production
  | .transfer => .transfer

/-- Turn order lines into planned orders with fresh identifiers from `uuid`
on, each dated back by the lead time. -/
def placeOrders (componentId : String) (config : MrpConfig)
    (calendar : WorkCalendar) : Nat → List (Int × ℚ) → Except Failure (List PlannedOrder)
  | _, [] => pure []
  | uuid, (requiredDate, quantity) :: rest => do
      let some orderDate := calendar.subtractWorkingDays requiredDate config.leadTimeDays
        | throw (.panic "日期溢出")
      let placed ← placeOrders componentId config calendar (uuid + 1) rest
      pure (PlannedOrder.new uuid componentId quantity requiredDate orderDate
        (determineOrderType config.procurementType) :: placed)

/-- The order lines of `lot_for_lot`: one per row with a positive net
requirement. -/
def lotForLotLines (config : MrpConfig) : List NetRequirement → List (Int × ℚ)
  | [] => []
  | req :: rest =>
      if 0 < req.netRequirement then
        (req.date, config.adjustOrderQuantity req.netRequirement) :: lotForLotLines config rest
      else lotForLotLines config rest

/-- `LotSizingCalculator::lot_for_lot`. -/
def lotForLot (componentId : String) (netRequirements : List NetRequirement)
    (config : MrpConfig) (calendar : WorkCalendar) (uuid : Nat) :
    Except Failure (List PlannedOrder) :=
  placeOrders componentId config calendar uuid (lotForLotLines config netRequirements)

/-- `ratio.ceil().to_string().parse::<u32>().unwrap_or(1)`: the ceiling, or a
single lot when the ceiling is not a `u32`. -/
def batchesNeeded (ratio : ℚ) : ℚ :=
  if 0 ≤ ⌈ratio⌉ ∧ ⌈ratio⌉ ≤ 4294967295 then ⌈ratio⌉ else 1

/-- The loop shared by `fixed_order_quantity` and `economic_order_quantity`:
a running balance from zero, and at every row where it drops below safety
stock an order of whole lots covering the shortage. A zero lot panics in the
division. -/
def fixedLotLines (config : MrpConfig) (lotSize : ℚ) :
    ℚ → List NetRequirement → Except Failure (List (Int × ℚ))
  | _, [] => pure []
  | remainingInventory, req :: rest =>
      let remaining := remainingInventory - req.grossRequirement + req.scheduledReceipt
      if remaining < config.safetyStock then
        if lotSize = 0 then throw (.panic "Division by zero")
        else
          let shortage := config.safetyStock - remaining
          let adjusted := config.adjustOrderQuantity
            (lotSize * batchesNeeded (shortage / lotSize))
          ((req.date, adjusted) :: ·) <$>
            fixedLotLines config lotSize (remaining + adjusted) rest
      else fixedLotLines config lotSize remaining rest

/-- `LotSizingCalculator::fixed_order_quantity`. -/
def fixedOrderQuantity (componentId : String) (netRequirements : List NetRequirement)
    (config : MrpConfig) (calendar : WorkCalendar) (uuid : Nat) :
    Except Failure (List PlannedOrder) := do
  let some fixedLotSize := config.fixedLotSize | throw (.err .missingLotSize)
  let lines ← fixedLotLines config fixedLotSize 0 netRequirements
  placeOrders componentId config calendar uuid lines

/-- The lot size of `economic_order_quantity`. Without a configured lot it is
`Decimal::try_from(sqrt(total) * 10.0)`, computed in `f64`; the model leaves
that floating-point computation abstract as `floatLotSize`. -/
def economicLotSize (floatLotSize : ℚ → ℚ) (netRequirements : List NetRequirement)
    (config : MrpConfig) : ℚ :=
  match config.fixedLotSize with
  | some fixedSize => fixedSize
  | none =>
      let totalRequirement := (netRequirements.map (·.netRequirement)).sum
      if 0 < totalRequirement then floatLotSize totalRequirement else 100

/-- `LotSizingCalculator::economic_order_quantity`. -/
def economicOrderQuantity (floatLotSize : ℚ → ℚ) (componentId : String)
    (netRequirements : List NetRequirement) (config : MrpConfig)
    (calendar : WorkCalendar) (uuid : Nat) : Except Failure (List PlannedOrder) := do
  let lines ← fixedLotLines config (economicLotSize floatLotSize netRequirements config) 0
    netRequirements
  placeOrders componentId config calendar uuid lines

/-- The inner loop of `period_order_quantity` over the enumerated rows from
the window's first: add up the rows dated fewer than seven days after the
window's start and stop at the first that is not. Returns the window total
and the index of its last row. -/
def collectPeriod (periodStartDate : Int) :
    List (Nat × NetRequirement) → ℚ → Nat → ℚ × Nat
  | [], periodTotal, periodEndIndex => (periodTotal, periodEndIndex)
  | (idx, req) :: rest, periodTotal, periodEndIndex =>
      if req.date - periodStartDate < 7 then
        collectPeriod periodStartDate rest (periodTotal + req.netRequirement) idx
      else (periodTotal, periodEndIndex)

/-- The outer loop of `period_order_quantity` from `periodStartIndex`, for at
most `fuel` windows: one order line per window with a positive total, dated
at the window's first row. -/
def periodLines (config : MrpConfig) (netRequirements : List NetRequirement) :
    Nat → Nat → List (Int × ℚ)
  | 0, _ => []
  | fuel + 1, periodStartIndex =>
      match netRequirements[periodStartIndex]? with
      | none => []
      | some first =>
          let period := collectPeriod first.date (netRequirements.enum.drop periodStartIndex)
            0 periodStartIndex
          let rest := periodLines config netRequirements fuel (period.2 + 1)
          if 0 < period.1 then
            (first.date, config.adjustOrderQuantity period.1) :: rest
          else rest

/-- `LotSizingCalculator::period_order_quantity`; each window takes at least
one row, so as many windows as rows suffice. -/
def periodOrderQuantity (componentId : String) (netRequirements : List NetRequirement)
    (config : MrpConfig) (calendar : WorkCalendar) (uuid : Nat) :
    Except Failure (List PlannedOrder) :=
  placeOrders componentId config calendar uuid
    (periodLines config netRequirements netRequirements.length 0)

/-- The loop of `min_max`: a running balance from zero, and at every row where
it drops below the minimum level an order refilling it to the maximum. -/
def minMaxLines (config : MrpConfig) (minLevel maxLevel : ℚ) :
    ℚ → List NetRequirement → List (Int × ℚ)
  | _, [] => []
  | currentInventory, req :: rest =>
      let current := currentInventory - req.grossRequirement + req.scheduledReceipt
      if current < minLevel then
        let adjusted := config.adjustOrderQuantity (maxLevel - current)
        (req.date, adjusted) :: minMaxLines config minLevel maxLevel (current + adjusted) rest
      else minMaxLines config minLevel maxLevel current rest

/-- `LotSizingCalculator::min_max`. -/
def minMax (componentId : String) (netRequirements : List NetRequirement)
    (config : MrpConfig) (calendar : WorkCalendar) (uuid : Nat) :
    Except Failure (List PlannedOrder) :=
  let minLevel := config.minimumOrderQty.getD config.safetyStock
  let maxLevel := config.maximumOrderQty.getD (minLevel * 2)
  placeOrders componentId config calendar uuid
    (minMaxLines config minLevel maxLevel 0 netRequirements)

/-- `LotSizingCalculator::apply`. -/
def apply (floatLotSize : ℚ → ℚ) (componentId : String)
    (netRequirements : List NetRequirement) (config : MrpConfig)
    (calendar : WorkCalendar) (uuid : Nat) : Except Failure (List PlannedOrder) :=
  match config.lotSizingRule with
  | .lotForLot => lotForLot componentId netRequirements config calendar uuid
  | .fixedOrderQuantity => fixedOrderQuantity componentId netRequirements config calendar uuid
  | .economicOrderQuantity =>
      economicOrderQuantity floatLotSize componentId netRequirements config calendar uuid
  | .periodOrderQuantity => periodOrderQuantity componentId netRequirements config calendar uuid
  | .minMax => minMax componentId netRequirements config calendar uuid

/-! ## Every rule places order lines on bucket dates -/

section

variable {componentId : String} {config : MrpConfig} {calendar : WorkCalendar}

/-- Placing order lines keeps their dates and quantities, draws consecutive
identifiers, and dates every order back by the lead time. -/
theorem placeOrders_ok {uuid : Nat} {lines : List (Int × ℚ)} {orders : List PlannedOrder}
    (placed : placeOrders componentId config calendar uuid lines = .ok orders) :
    orders.map (fun order => (order.requiredDate, order.quantity)) = lines ∧
      orders.map (·.id) = List.range' uuid lines.length ∧
      ∀ order ∈ orders, order.componentId = componentId ∧
        calendar.subtractWorkingDays order.requiredDate config.leadTimeDays =
          some order.orderDate := by
  induction lines generalizing uuid orders with
  | nil => cases placed; simp
  | cons line rest inductionHypothesis =>
      obtain ⟨requiredDate, quantity⟩ := line
      simp only [placeOrders] at placed
      cases dated : calendar.subtractWorkingDays requiredDate config.leadTimeDays with
      | none => simp [dated] at placed
      | some orderDate =>
          simp only [dated, Except.bind_eq_ok, pure, Except.pure, Except.ok.injEq] at placed
          obtain ⟨placedRest, restOk, rfl⟩ := placed
          obtain ⟨restLines, restIds, restOrders⟩ := inductionHypothesis restOk
          refine ⟨by simp [PlannedOrder.new, restLines], by simp [PlannedOrder.new, restIds,
            List.range'_succ], ?_⟩
          simp only [List.mem_cons, forall_eq_or_imp]
          exact ⟨⟨rfl, dated⟩, restOrders⟩

theorem lotForLotLines_dates (netRequirements : List NetRequirement) :
    ((lotForLotLines config netRequirements).map Prod.fst).Sublist
      (netRequirements.map (·.date)) := by
  induction netRequirements with
  | nil => exact List.Sublist.slnil
  | cons req rest inductionHypothesis =>
      dsimp only [lotForLotLines]
      split_ifs
      · exact inductionHypothesis.cons₂ _
      · exact inductionHypothesis.cons _

theorem fixedLotLines_dates {lotSize remainingInventory : ℚ}
    {netRequirements : List NetRequirement} {lines : List (Int × ℚ)}
    (decided : fixedLotLines config lotSize remainingInventory netRequirements = .ok lines) :
    (lines.map Prod.fst).Sublist (netRequirements.map (·.date)) := by
  induction netRequirements generalizing remainingInventory lines with
  | nil => cases decided; exact List.Sublist.slnil
  | cons req rest inductionHypothesis =>
      rw [fixedLotLines] at decided
      split_ifs at decided with below zeroLot
      · obtain ⟨restLines, restOk, rfl⟩ := Except.map_eq_ok.mp decided
        exact (inductionHypothesis restOk).cons₂ _
      · exact (inductionHypothesis decided).cons _

theorem minMaxLines_dates (minLevel maxLevel currentInventory : ℚ)
    (netRequirements : List NetRequirement) :
    ((minMaxLines config minLevel maxLevel currentInventory netRequirements).map
      Prod.fst).Sublist (netRequirements.map (·.date)) := by
  induction netRequirements generalizing currentInventory with
  | nil => exact List.Sublist.slnil
  | cons req rest inductionHypothesis =>
      dsimp only [minMaxLines]
      split_ifs
      · exact (inductionHypothesis _).cons₂ _
      · exact (inductionHypothesis _).cons _

theorem drop_enumFrom {α : Type} (entries : List α) (start skipped : Nat) :
    (entries.enumFrom start).drop skipped =
      (entries.drop skipped).enumFrom (start + skipped) := by
  induction entries generalizing start skipped with
  | nil => simp
  | cons entry rest inductionHypothesis =>
      cases skipped with
      | zero => simp
      | succ skipped =>
          simp only [List.enumFrom_cons, List.drop_succ_cons, inductionHypothesis]
          congr 1
          omega

/-- The window's last index is its first or the index of one of its rows. -/
theorem collectPeriod_index (periodStartDate : Int) (entries : List (Nat × NetRequirement))
    (periodTotal : ℚ) (periodEndIndex : Nat) :
    (collectPeriod periodStartDate entries periodTotal periodEndIndex).2 = periodEndIndex ∨
      ∃ entry ∈ entries,
        (collectPeriod periodStartDate entries periodTotal periodEndIndex).2 = entry.1 := by
  induction entries generalizing periodTotal periodEndIndex with
  | nil => exact .inl rfl
  | cons entry rest inductionHypothesis =>
      obtain ⟨idx, req⟩ := entry
      unfold collectPeriod
      split
      · rcases inductionHypothesis (periodTotal + req.netRequirement) idx with
          atIdx | ⟨other, member, atOther⟩
        · exact .inr ⟨(idx, req), List.mem_cons_self _ _, atIdx⟩
        · exact .inr ⟨other, List.mem_cons_of_mem _ member, atOther⟩
      · exact .inl rfl

/-- The rows from a window's start onward have indices at least its start. -/
theorem le_of_mem_drop_enum {netRequirements : List NetRequirement} {start : Nat}
    {entry : Nat × NetRequirement} (member : entry ∈ netRequirements.enum.drop start) :
    start ≤ entry.1 := by
  rw [List.enum, drop_enumFrom, Nat.zero_add] at member
  exact List.le_fst_of_mem_enumFrom member

theorem periodLines_dates (netRequirements : List NetRequirement) (fuel start : Nat) :
    ((periodLines config netRequirements fuel start).map Prod.fst).Sublist
      ((netRequirements.drop start).map (·.date)) := by
  induction fuel generalizing start with
  | zero => exact List.nil_sublist _
  | succ fuel inductionHypothesis =>
      unfold periodLines
      split
      · exact List.nil_sublist _
      case h_2 first found =>
        obtain ⟨inRange, firstAt⟩ := List.getElem?_eq_some_iff.mp found
        have window := collectPeriod_index first.date (netRequirements.enum.drop start) 0 start
        have startLe : start ≤ (collectPeriod first.date (netRequirements.enum.drop start) 0
            start).2 := by
          rcases window with atStart | ⟨entry, member, atEntry⟩
          · exact atStart.ge
          · exact atEntry ▸ le_of_mem_drop_enum member
        have restDates := (inductionHypothesis _).trans
          ((List.drop_sublist_drop_left netRequirements (Nat.succ_le_succ startLe)).map
            (·.date))
        rw [List.drop_eq_getElem_cons inRange, firstAt, List.map_cons]
        dsimp only
        split_ifs
        · exact restDates.cons₂ _
        · exact restDates.cons _

/-- Whatever the rule, a plan that returns places order lines dated on
buckets of the series, in the series' order. -/
theorem apply_ok {floatLotSize : ℚ → ℚ} {netRequirements : List NetRequirement}
    {uuid : Nat} {orders : List PlannedOrder}
    (applied : apply floatLotSize componentId netRequirements config calendar uuid =
      .ok orders) :
    ∃ lines, placeOrders componentId config calendar uuid lines = .ok orders ∧
      (lines.map Prod.fst).Sublist (netRequirements.map (·.date)) := by
  unfold apply at applied
  split at applied
  · exact ⟨_, applied, lotForLotLines_dates netRequirements⟩
  · unfold fixedOrderQuantity at applied
    split at applied
    · obtain ⟨lines, decided, placed⟩ := Except.bind_eq_ok.mp applied
      exact ⟨lines, placed, fixedLotLines_dates decided⟩
    · cases applied
  · obtain ⟨lines, decided, placed⟩ := Except.bind_eq_ok.mp applied
    exact ⟨lines, placed, fixedLotLines_dates decided⟩
  · exact ⟨_, applied, by simpa using periodLines_dates netRequirements _ 0⟩
  · exact ⟨_, applied, minMaxLines_dates _ _ 0 netRequirements⟩

end

end LotSizingCalculator

end NexusMrp
