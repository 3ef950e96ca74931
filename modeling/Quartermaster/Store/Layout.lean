import Quartermaster.Store.Basic

/-!
# The layout of the store

A store carries the version of its layout. Opening it brings an older layout up to the present one
and leaves a newer one as it is. A store that is kept in memory is gone when it is closed.
-/

namespace Quartermaster

/-- Where a store is kept. -/
inductive Medium where
  | memory | file
  deriving DecidableEq, Repr

namespace Store

/-- The version of the layout that this library writes. -/
def layoutVersion : Int := 1

/-- The version that a store has once it is open; a number that is no version makes the storage
fail. -/
def openedVersion : Option Int → Except Refusal Int
  | none => .ok layoutVersion
  | some version =>
    if version < -0x80000000 ∨ 0x80000000 ≤ version then .error (.ofFault .outOfRange)
    else .ok (max version layoutVersion)

/-- Closes a store and opens it again. Answers the version that it then has. -/
def reopen (s : Store) : Medium → Except Refusal Int × Store
  | .memory => (.ok layoutVersion, { clock := s.clock, supply := s.supply, minted := s.minted })
  | .file =>
    match openedVersion s.version with
    | .ok version => (.ok version, { s with version := some version })
    | .error why => (.error why, s)

/-- Opens a store in a directory that is not there. -/
def openMissing : Except Refusal Unit := .error (.ofFault .unavailable)

end Store

end Quartermaster
