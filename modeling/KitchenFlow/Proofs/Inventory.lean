import KitchenFlow.Inventory.Matching
import KitchenFlow.Proofs.Number
import Mathlib.Algebra.Ring.Int.Defs

/-!
# What triggers match and stores leave out

A store reports the items that are near their expiry or not plainly in stock, and the horizon of the
store has nothing to do with the days that the author of a flow gives a trigger. So there are
triggers that match an item which is never reported: those that look further ahead than the store,
and those that ask for what is in stock. There are no others.
-/

namespace KitchenFlow

variable {item : InventoryItem} {horizon : Int}

theorem Binary64.ble_self {x : Binary64} (h : x ≠ .nan) : x.ble x = true := by
  cases x with
  | nan => exact (h rfl).elim
  | infinite s => cases s <;> rfl
  | finite s u => exact ble_finite_iff.2 (Int.le_refl _)

/-- The days until an item expires are a number of 64 bits. -/
def InventoryItem.Held (i : InventoryItem) : Prop :=
  ∀ d ∈ i.remainingDays, -2 ^ 63 ≤ d ∧ d < 2 ^ 63

/-- An item is left out if it is in stock, or has no status, and does not expire within the
horizon. -/
theorem InventoryItem.isNearExpiry_eq_false_iff : item.isNearExpiry horizon = false ↔
    (∀ d ∈ item.remainingDays, horizon < d) ∧
    ∀ own ∈ item.status, Text.sameLetters (Text.trim own) inStock = true := by
  simp [isNearExpiry, Option.any_eq_false]

theorem Text.sameLetters_trans {a b c : String} (hab : sameLetters a b = true)
    (hbc : sameLetters b c = true) : sameLetters a c = true := by
  rw [sameLetters_iff] at *
  exact hab.trans hbc

/-- An item belongs to its own category, and all items to none. -/
theorem InventoryItem.inCategory_own (item : InventoryItem) :
    item.inCategory item.category = true := by
  unfold inCategory
  cases item.category with
  | none => rfl
  | some c => simp

namespace ExpirationTriggerConfig

variable {c : ExpirationTriggerConfig}

/-- A store hides an item from an expiration trigger if, and only if, the trigger looks further
ahead. Beyond the greatest number of days there is nothing to hide. -/
theorem exists_hidden_iff (hlow : -2 ^ 63 ≤ horizon) :
    (∃ item : InventoryItem, item.Held ∧ c.isMatch item = true ∧
      item.isNearExpiry horizon = false) ↔
        horizon < 2 ^ 63 - 1 ∧ (Binary64.ofInt (horizon + 1)).ble c.timeOffset = true := by
  constructor
  · rintro ⟨item, hheld, hmatch, hhidden⟩
    obtain ⟨hdays, -⟩ := Bool.and_eq_true_iff.1 hmatch
    obtain ⟨d, hd, hoffset⟩ := (Option.any_eq_true _ _).1 hdays
    have hlater : horizon + 1 ≤ d := (InventoryItem.isNearExpiry_eq_false_iff.1 hhidden).1 d hd
    have hrange := (hheld d hd).2
    exact ⟨by omega, Binary64.ble_trans (Binary64.ofInt_mono hlater) hoffset⟩
  · rintro ⟨hhigh, h⟩
    -- an item that expires on the first day beyond the horizon
    refine ⟨⟨"", "", c.filterCategory, none, none, some (horizon + 1), none⟩, ?_, ?_, ?_⟩
    · intro d hd
      obtain rfl := Option.some.inj hd
      omega
    · simp only [isMatch, Option.any_some, h, Bool.true_and]
      exact InventoryItem.inCategory_own _
    · simp only [InventoryItem.isNearExpiry, Option.any_some, Option.any_none, Bool.or_false,
        decide_eq_false_iff_not]
      omega

end ExpirationTriggerConfig

namespace InventoryStatusTriggerConfig

variable {c : InventoryStatusTriggerConfig}

/-- A store hides an item from a status trigger if, and only if, the trigger asks for what is in
stock. A threshold that is not a number lets nothing pass. -/
theorem exists_hidden_iff :
    (∃ item : InventoryItem, item.Held ∧ c.isMatch item = true ∧
      item.isNearExpiry horizon = false) ↔
        Text.sameLetters (Text.trim c.status) inStock = true ∧ c.threshold ≠ some .nan := by
  constructor
  · rintro ⟨item, -, hmatch, hhidden⟩
    simp only [isMatch, Bool.and_eq_true] at hmatch
    obtain ⟨⟨hstatus, hthreshold⟩, -⟩ := hmatch
    obtain ⟨own, hown, hsame⟩ := (Option.any_eq_true _ _).1 hstatus
    have hstock := (InventoryItem.isNearExpiry_eq_false_iff.1 hhidden).2 own hown
    rw [Text.sameLetters_comm] at hsame
    refine ⟨Text.sameLetters_trans hsame hstock, fun hnan => ?_⟩
    rw [hnan, Option.all_some] at hthreshold
    obtain ⟨q, -, hq⟩ := (Option.any_eq_true _ _).1 hthreshold
    exact (Binary64.ne_nan_of_ble hq).2 rfl
  · rintro ⟨hstock, hthreshold⟩
    -- an item of the very status and category, and exactly as much of it as is let pass
    refine ⟨⟨"", "", c.filterCategory, none, some c.status, none, c.threshold⟩, nofun, ?_, ?_⟩
    · have hlimit : (c.threshold.all fun limit => c.threshold.any fun q => q.ble limit) = true := by
        cases ht : c.threshold with
        | none => rfl
        | some limit => simpa using Binary64.ble_self fun h => hthreshold (h ▸ ht)
      simp only [isMatch, InventoryItem.hasStatus, Option.any_some, Text.sameLetters_refl, hlimit,
        Bool.true_and]
      exact InventoryItem.inCategory_own _
    · simp [InventoryItem.isNearExpiry, hstock]

end InventoryStatusTriggerConfig
end KitchenFlow
