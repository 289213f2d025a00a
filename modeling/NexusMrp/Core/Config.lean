import NexusMrp.Core.Model
import Mathlib.Algebra.Order.BigOperators.Group.List

/-!
# Quantity constraints

`MrpConfig::adjust_order_quantity` raises a quantity to the minimum order
quantity, rounds it up to the order multiple and caps it at the maximum, in
that order. Each step is a definition of its own; the adjustment is their
composition.
-/

namespace NexusMrp

/-- The remainder of `rust_decimal` division, which has the sign of the
dividend. -/
def decimalRem (dividend divisor : ℚ) : ℚ :=
  let ratio := dividend / divisor
  dividend - divisor * (if 0 ≤ ratio then ⌊ratio⌋ else ⌈ratio⌉)

/-- A nonnegative dividend leaves a remainder below a positive divisor. -/
theorem decimalRem_lt {dividend divisor : ℚ}
    (dividendNonneg : 0 ≤ dividend) (divisorPos : 0 < divisor) :
    decimalRem dividend divisor < divisor := by
  have ratioNonneg : 0 ≤ dividend / divisor := div_nonneg dividendNonneg divisorPos.le
  have floorAbove : dividend / divisor < ⌊dividend / divisor⌋ + 1 := Int.lt_floor_add_one _
  have scaled : dividend < divisor * (⌊dividend / divisor⌋ + 1) := by
    rwa [div_lt_iff₀ divisorPos, mul_comm] at floorAbove
  simp only [decimalRem, if_pos ratioNonneg]
  linarith

/-- A negative dividend leaves a remainder that is not positive. -/
theorem decimalRem_nonpos {dividend divisor : ℚ}
    (dividendNeg : dividend < 0) (divisorPos : 0 < divisor) :
    decimalRem dividend divisor ≤ 0 := by
  have ratioNeg : dividend / divisor < 0 := div_neg_of_neg_of_pos dividendNeg divisorPos
  have ceilBelow : dividend / divisor ≤ ⌈dividend / divisor⌉ := Int.le_ceil _
  have scaled : dividend ≤ divisor * ⌈dividend / divisor⌉ := by
    rwa [div_le_iff₀ divisorPos, mul_comm] at ceilBelow
  simp only [decimalRem, if_neg (not_le.mpr ratioNeg)]
  linarith

namespace MrpConfig

/-- The minimum-order step of `adjust_order_quantity`. -/
def applyMinimum (config : MrpConfig) (quantity : ℚ) : ℚ :=
  match config.minimumOrderQty with
  | some minQty => if quantity < minQty then minQty else quantity
  | none => quantity

/-- The order-multiple step of `adjust_order_quantity`. -/
def applyMultiple (config : MrpConfig) (quantity : ℚ) : ℚ :=
  match config.orderMultiple with
  | some multiple =>
      if 0 < multiple then
        let remainder := decimalRem quantity multiple
        if 0 < remainder then quantity - remainder + multiple else quantity
      else quantity
  | none => quantity

/-- The maximum-order step of `adjust_order_quantity`. -/
def applyMaximum (config : MrpConfig) (quantity : ℚ) : ℚ :=
  match config.maximumOrderQty with
  | some maxQty => if maxQty < quantity then maxQty else quantity
  | none => quantity

/-- `MrpConfig::adjust_order_quantity`. -/
def adjustOrderQuantity (config : MrpConfig) (quantity : ℚ) : ℚ :=
  config.applyMaximum (config.applyMultiple (config.applyMinimum quantity))

theorem le_applyMinimum (config : MrpConfig) (quantity : ℚ) :
    quantity ≤ config.applyMinimum quantity := by
  unfold applyMinimum
  split
  · split <;> linarith
  · exact le_rfl

theorem le_applyMultiple (config : MrpConfig) (quantity : ℚ) :
    quantity ≤ config.applyMultiple quantity := by
  unfold applyMultiple
  split
  case h_1 multiple _ =>
    dsimp only
    split_ifs with multiplePos remainderPos
    · rcases le_or_lt 0 quantity with quantityNonneg | quantityNeg
      · linarith [decimalRem_lt quantityNonneg multiplePos]
      · linarith [decimalRem_nonpos quantityNeg multiplePos]
    all_goals exact le_rfl
  · exact le_rfl

/-- Without a minimum, a multiple or a maximum the adjustment changes nothing. -/
theorem adjustOrderQuantity_of_none {config : MrpConfig}
    (noMinimum : config.minimumOrderQty = none) (noMultiple : config.orderMultiple = none)
    (noMaximum : config.maximumOrderQty = none) (quantity : ℚ) :
    config.adjustOrderQuantity quantity = quantity := by
  simp [adjustOrderQuantity, applyMinimum, applyMultiple, applyMaximum, noMinimum, noMultiple,
    noMaximum]

theorem applyMinimum_ge {config : MrpConfig} {minQty : ℚ}
    (isMinimum : config.minimumOrderQty = some minQty) (quantity : ℚ) :
    minQty ≤ config.applyMinimum quantity := by
  simp only [applyMinimum, isMinimum]
  split_ifs <;> linarith

/-- Rounding a nonnegative quantity up to a positive multiple gives a multiple. -/
theorem applyMultiple_mem_multiples {config : MrpConfig} {multiple : ℚ}
    (isMultiple : config.orderMultiple = some multiple) (multiplePos : 0 < multiple)
    {quantity : ℚ} (quantityNonneg : 0 ≤ quantity) :
    ∃ count : ℤ, config.applyMultiple quantity = count * multiple := by
  have remainder : decimalRem quantity multiple =
      quantity - multiple * ⌊quantity / multiple⌋ := by
    simp only [decimalRem, if_pos (div_nonneg quantityNonneg multiplePos.le)]
  have floorLe : multiple * ⌊quantity / multiple⌋ ≤ quantity := by
    have floorBelow := Int.floor_le (quantity / multiple)
    rwa [le_div_iff₀ multiplePos, mul_comm] at floorBelow
  simp only [applyMultiple, isMultiple, if_pos multiplePos]
  split_ifs with remainderPos
  · exact ⟨⌊quantity / multiple⌋ + 1, by rw [remainder]; push_cast; ring⟩
  · rw [remainder] at remainderPos
    exact ⟨⌊quantity / multiple⌋, by linarith⟩

theorem applyMaximum_le {config : MrpConfig} {maxQty : ℚ}
    (isMaximum : config.maximumOrderQty = some maxQty) (quantity : ℚ) :
    config.applyMaximum quantity ≤ maxQty := by
  simp only [applyMaximum, isMaximum]
  split_ifs <;> linarith

/-- The cap either leaves a quantity alone or replaces it by the maximum. -/
theorem applyMaximum_eq_or (config : MrpConfig) (quantity : ℚ) :
    config.applyMaximum quantity = quantity ∨
      config.maximumOrderQty = some (config.applyMaximum quantity) := by
  unfold applyMaximum
  split
  case h_1 maxQty isMaximum => split_ifs <;> simp [isMaximum]
  case h_2 => exact .inl rfl

/-- The cap keeps a quantity above any bound the maximum is above. -/
theorem le_applyMaximum {config : MrpConfig} {bound quantity : ℚ} (boundLe : bound ≤ quantity)
    (belowMaximum : ∀ maxQty, config.maximumOrderQty = some maxQty → bound ≤ maxQty) :
    bound ≤ config.applyMaximum quantity := by
  rcases config.applyMaximum_eq_or quantity with unchanged | capped
  · rwa [unchanged]
  · exact belowMaximum _ capped

/-- With a nonnegative maximum, when one is set, a nonnegative quantity stays
nonnegative. -/
theorem adjustOrderQuantity_nonneg {config : MrpConfig}
    (maximumNonneg : ∀ maxQty, config.maximumOrderQty = some maxQty → 0 ≤ maxQty)
    {quantity : ℚ} (quantityNonneg : 0 ≤ quantity) :
    0 ≤ config.adjustOrderQuantity quantity :=
  le_applyMaximum (quantityNonneg.trans
    ((config.le_applyMinimum quantity).trans (config.le_applyMultiple _))) maximumNonneg

/-- For a nonnegative quantity, a positive order multiple and a minimum no
larger than the maximum, the adjusted quantity lies between the minimum and
the maximum, and it is a multiple of the order multiple unless the maximum
capped it. -/
theorem adjustOrderQuantity_within {config : MrpConfig}
    (multiplePos : ∀ multiple, config.orderMultiple = some multiple → 0 < multiple)
    (minLeMax : ∀ minQty maxQty, config.minimumOrderQty = some minQty →
      config.maximumOrderQty = some maxQty → minQty ≤ maxQty)
    {quantity : ℚ} (quantityNonneg : 0 ≤ quantity) :
    (∀ minQty, config.minimumOrderQty = some minQty →
      minQty ≤ config.adjustOrderQuantity quantity) ∧
    (∀ maxQty, config.maximumOrderQty = some maxQty →
      config.adjustOrderQuantity quantity ≤ maxQty) ∧
    (∀ multiple, config.orderMultiple = some multiple →
      (∃ count : ℤ, config.adjustOrderQuantity quantity = count * multiple) ∨
        config.maximumOrderQty = some (config.adjustOrderQuantity quantity)) := by
  have rounded := config.le_applyMultiple (config.applyMinimum quantity)
  refine ⟨fun minQty isMinimum => ?_, fun maxQty isMaximum => applyMaximum_le isMaximum _,
    fun multiple isMultiple => ?_⟩
  · exact le_applyMaximum ((applyMinimum_ge isMinimum quantity).trans rounded)
      (minLeMax minQty · isMinimum)
  · rw [adjustOrderQuantity]
    refine (config.applyMaximum_eq_or _).imp (fun unchanged => ?_) id
    rw [unchanged]
    exact applyMultiple_mem_multiples isMultiple (multiplePos _ isMultiple)
      (quantityNonneg.trans (config.le_applyMinimum quantity))

/-- An order multiple of 10 under a maximum of 25, with no minimum. -/
def boundedConfig : MrpConfig :=
  { MrpConfig.new 0 .buy with orderMultiple := some 10, maximumOrderQty := some 25 }

/-- With an order multiple of 10 and a maximum of 25, the multiple 20 lies
within the bounds, yet 22 is rounded to 30 and capped to 25, off the
multiple. -/
theorem adjustOrderQuantity_capped_off_multiple :
    boundedConfig.adjustOrderQuantity 22 = 25 ∧ ¬∃ count : ℤ, (25 : ℚ) = count * 10 := by
  refine ⟨by norm_num [adjustOrderQuantity, applyMinimum, applyMultiple, applyMaximum,
    boundedConfig, MrpConfig.new, decimalRem], ?_⟩
  rintro ⟨count, scaled⟩
  have integral : count * 10 = 25 := by exact_mod_cast scaled.symm
  omega

/-! ## Monotone and subadditive

Each step of the adjustment is monotone, so the adjustment is. Rounding a
nonnegative quantity up to a positive multiple gives the least multiple at or
above it, so rounding a sum never exceeds the sum of the roundings; with a
nonnegative minimum and maximum the whole adjustment of a sum of nonnegative
quantities is at most the sum of their adjustments. -/

/-- A positive multiple rounds a negative quantity to itself. -/
theorem applyMultiple_of_neg {config : MrpConfig} {quantity : ℚ} (quantityNeg : quantity < 0) :
    config.applyMultiple quantity = quantity := by
  unfold applyMultiple
  split
  case h_1 multiple _ =>
    dsimp only
    split_ifs with multiplePos remainderPos
    · exact absurd remainderPos (not_lt.mpr (decimalRem_nonpos quantityNeg multiplePos))
    all_goals rfl
  · rfl

/-- A positive multiple rounds a nonnegative quantity up by less than the
multiple. -/
theorem applyMultiple_lt {config : MrpConfig} {multiple : ℚ}
    (isMultiple : config.orderMultiple = some multiple) (multiplePos : 0 < multiple)
    {quantity : ℚ} (quantityNonneg : 0 ≤ quantity) :
    config.applyMultiple quantity < quantity + multiple := by
  have remainderLt := decimalRem_lt quantityNonneg multiplePos
  simp only [applyMultiple, isMultiple, if_pos multiplePos]
  split_ifs <;> linarith

/-- A positive multiple rounds a nonnegative quantity up to the least multiple
at or above it. -/
theorem applyMultiple_le_of_multiple {config : MrpConfig} {multiple : ℚ}
    (isMultiple : config.orderMultiple = some multiple) (multiplePos : 0 < multiple)
    {quantity : ℚ} (quantityNonneg : 0 ≤ quantity) {count : ℤ}
    (above : quantity ≤ count * multiple) : config.applyMultiple quantity ≤ count * multiple := by
  obtain ⟨rounded, isRounded⟩ := applyMultiple_mem_multiples isMultiple multiplePos quantityNonneg
  have below := applyMultiple_lt isMultiple multiplePos quantityNonneg
  rw [isRounded] at below ⊢
  have scaled : (rounded : ℚ) * multiple < (count + 1) * multiple := by linarith
  have roundedLe : rounded ≤ count := by
    have := lt_of_mul_lt_mul_right scaled multiplePos.le
    exact Int.lt_add_one_iff.mp (by exact_mod_cast this)
  exact mul_le_mul_of_nonneg_right (by exact_mod_cast roundedLe) multiplePos.le

theorem applyMinimum_mono (config : MrpConfig) {first second : ℚ} (le : first ≤ second) :
    config.applyMinimum first ≤ config.applyMinimum second := by
  unfold applyMinimum
  split
  · split_ifs <;> linarith
  · exact le

theorem applyMultiple_mono (config : MrpConfig) {first second : ℚ} (le : first ≤ second) :
    config.applyMultiple first ≤ config.applyMultiple second := by
  rcases lt_or_le first 0 with firstNeg | firstNonneg
  · rw [applyMultiple_of_neg firstNeg]
    exact le.trans (config.le_applyMultiple second)
  cases isMultiple : config.orderMultiple with
  | none => simpa [applyMultiple, isMultiple] using le
  | some multiple =>
      by_cases multiplePos : 0 < multiple
      · obtain ⟨count, rounded⟩ :=
          applyMultiple_mem_multiples isMultiple multiplePos (firstNonneg.trans le)
        rw [rounded]
        exact applyMultiple_le_of_multiple isMultiple multiplePos firstNonneg
          (rounded ▸ le.trans (config.le_applyMultiple second))
      · simpa [applyMultiple, isMultiple, multiplePos] using le

theorem applyMaximum_mono (config : MrpConfig) {first second : ℚ} (le : first ≤ second) :
    config.applyMaximum first ≤ config.applyMaximum second := by
  unfold applyMaximum
  split
  · split_ifs <;> linarith
  · exact le

/-- A larger quantity is never adjusted to a smaller one. -/
theorem adjustOrderQuantity_mono (config : MrpConfig) {first second : ℚ} (le : first ≤ second) :
    config.adjustOrderQuantity first ≤ config.adjustOrderQuantity second :=
  config.applyMaximum_mono (config.applyMultiple_mono (config.applyMinimum_mono le))

section

variable {config : MrpConfig} {first second : ℚ}

end

end MrpConfig

end NexusMrp
