/-!
# Broadcast

A channel that gives each listener every item sent since it began to listen, as long as it keeps up:
only the newest items are kept, and a listener that falls behind is told how many it has missed. An
item that is sent while nobody listens is not kept.

The capacity is rounded up to a power of two.
-/

namespace Quartermaster

structure Broadcast (α : Type) where
  capacity : Nat
  /-- How many items have been sent. -/
  sent : Nat := 0
  /-- The newest items, oldest first. -/
  window : List α := []
  /-- For each listener the number of items it is past, and nothing once it has left. -/
  listeners : List (Option Nat) := []
  deriving Repr

namespace Broadcast

variable {α : Type}

def withCapacity (n : Nat) : Broadcast α := { capacity := (max 1 n).nextPowerOfTwo }

/-- How many listen. -/
def listenerCount (c : Broadcast α) : Nat := (c.listeners.filter Option.isSome).length

/-- Adds a listener, which hears what is sent from now on. -/
def subscribe (c : Broadcast α) : Broadcast α :=
  { c with listeners := c.listeners ++ [some c.sent] }

/-- A listener leaves. -/
def unsubscribe (c : Broadcast α) (listener : Nat) : Broadcast α :=
  { c with listeners := c.listeners.set listener none }

/-- Sends an item. -/
def emit (c : Broadcast α) (item : α) : Broadcast α :=
  if c.listenerCount = 0 then c
  else
    let all := c.window ++ [item]
    { c with sent := c.sent + 1, window := all.drop (all.length - c.capacity) }

def emitAll (c : Broadcast α) (items : List α) : Broadcast α := items.foldl emit c

/-- What a listener finds when it looks: how many items it has missed, and those that are still
kept, oldest first. -/
structure Reading (α : Type) where
  missed : Nat
  items : List α
  deriving Repr

/-- Everything that a listener has not heard yet, after which it has heard everything. -/
def receive (c : Broadcast α) (listener : Nat) : Reading α × Broadcast α :=
  match c.listeners[listener]?.join with
  | none => (⟨0, []⟩, c)
  | some heard =>
    let behind := c.sent - heard
    let kept := min behind c.window.length
    (⟨behind - kept, c.window.drop (c.window.length - kept)⟩,
      { c with listeners := c.listeners.set listener (some c.sent) })

end Broadcast

end Quartermaster
