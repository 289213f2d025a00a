import NexusMrp.Core.Model
import NexusMrp.Core.Config
import NexusMrp.Core.Calendar
import NexusMrp.Core.WorkingDays
import NexusMrp.Core.Inventory
import NexusMrp.Core.Holidays
import NexusMrp.Calc.Bucketing
import NexusMrp.Calc.Netting
import NexusMrp.Calc.LotSizing
import NexusMrp.Calc.Pegging
import NexusMrp.Calc.Calculator
import NexusMrp.Calc.KernelSteps
import NexusMrp.Calc.PlanInvariants
import NexusMrp.Calc.Worklist
import NexusMrp.Calc.Propagation
import NexusMrp.Calc.LotTotals
import NexusMrp.Calc.TimeAxis
import NexusMrp.Calc.RuleOutcomes
import NexusMrp.Calc.RunningBalance
import NexusMrp.Calc.PeriodWindows
import NexusMrp.Calc.BucketStrategies
import NexusMrp.Calc.LeadTimes
import NexusMrp.Calc.Consolidation
import NexusMrp.Calc.StockMonotone
import NexusMrp.Calc.Failures
import NexusMrp.Calc.Coverage
import NexusMrp.Calc.ItemPlans
import NexusMrp.Calc.SingleParent
import NexusMrp.Calc.HashOrders
import NexusMrp.Calc.DependentDemands
import NexusMrp.Calc.CoveredPlans
import NexusMrp.Cache.DirtyTracking
