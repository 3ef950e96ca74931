import Quartermaster.Store.Consumable

/-!
# Holdings

What one person has at the moment, over all three kinds of assets. Nobody needs a rank to see their
own.
-/

namespace Quartermaster

structure Holdings where
  equipment : List (Entry .equipment Equipment × Entry .equipmentAssignment EquipmentAssignment)
  accessories : List (Entry .accessory Accessory × Entry .accessoryAssignment AccessoryAssignment)
  consumables : List (Entry .consumable Consumable × Entry .consumableIssue ConsumableIssue)
  deriving DecidableEq, Repr

/-- The open custody rows of a user with their assets. -/
def Store.holdings (s : Store) (holder : UserId) : Except Refusal Holdings := do
  return {
    equipment := ← s.heldEquipment holder
    accessories := ← s.heldAccessories holder
    consumables := ← s.heldConsumables holder }

end Quartermaster
