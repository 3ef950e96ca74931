/-!
# Roles

Eight roles in one order of rank, each bound at one tier of the tree of departments, locations and
rooms. `SITE_ADMIN` is above the tree and satisfies every requirement.
-/

namespace Quartermaster

/-- The roles in ascending rank. -/
inductive Role where
  | roomViewer | roomClerk | roomAdmin
  | locationViewer | locationAdmin
  | departmentViewer | departmentAdmin
  | siteAdmin
  deriving DecidableEq, Repr

/-- The level of the tree at which a role is bound, finest first. -/
inductive Tier where
  | room | location | department | site
  deriving DecidableEq, Repr

namespace Tier

def all : List Tier := [.room, .location, .department, .site]

def rank : Tier → Nat
  | .room => 0
  | .location => 1
  | .department => 2
  | .site => 3

/-- The name of a tier in data. -/
def name : Tier → String
  | .room => "room"
  | .location => "location"
  | .department => "department"
  | .site => "site"

/-- The name of a tier in prose. -/
def title : Tier → String
  | .room => "Room"
  | .location => "Location"
  | .department => "Department"
  | .site => "Site"

def ofName? (name : String) : Option Tier :=
  all.find? (·.name == name)

end Tier

namespace Role

def all : List Role :=
  [.roomViewer, .roomClerk, .roomAdmin, .locationViewer, .locationAdmin, .departmentViewer,
   .departmentAdmin, .siteAdmin]

def rank : Role → Nat
  | .roomViewer => 0
  | .roomClerk => 1
  | .roomAdmin => 2
  | .locationViewer => 3
  | .locationAdmin => 4
  | .departmentViewer => 5
  | .departmentAdmin => 6
  | .siteAdmin => 7

def name : Role → String
  | .roomViewer => "ROOM_VIEWER"
  | .roomClerk => "ROOM_CLERK"
  | .roomAdmin => "ROOM_ADMIN"
  | .locationViewer => "LOCATION_VIEWER"
  | .locationAdmin => "LOCATION_ADMIN"
  | .departmentViewer => "DEPARTMENT_VIEWER"
  | .departmentAdmin => "DEPARTMENT_ADMIN"
  | .siteAdmin => "SITE_ADMIN"

def ofName? (name : String) : Option Role :=
  all.find? (·.name == name)

def tier : Role → Tier
  | .roomViewer | .roomClerk | .roomAdmin => .room
  | .locationViewer | .locationAdmin => .location
  | .departmentViewer | .departmentAdmin => .department
  | .siteAdmin => .site

/-- The role of the next rank; the highest role is its own successor. -/
def successor : Role → Role
  | .roomViewer => .roomClerk
  | .roomClerk => .roomAdmin
  | .roomAdmin => .locationViewer
  | .locationViewer => .locationAdmin
  | .locationAdmin => .departmentViewer
  | .departmentViewer => .departmentAdmin
  | .departmentAdmin => .siteAdmin
  | .siteAdmin => .siteAdmin

/-- Whether a holder of `actor` has the rank that `required` asks for. -/
def hasRank (actor required : Role) : Bool :=
  actor == .siteAdmin || required.rank ≤ actor.rank

/-- The rank test on names of roles; a name that is no role never passes. -/
def hasRankNamed (actor required : String) : Bool :=
  match ofName? actor, ofName? required with
  | some a, some r => hasRank a r
  | _, _ => false

/-- `SITE_ADMIN` has the highest rank, so the rank test is the order of ranks. -/
theorem hasRank_iff {a r : Role} : hasRank a r = true ↔ r.rank ≤ a.rank := by
  cases a <;> cases r <;> decide

/-- Every role but the highest is outranked by its successor. -/
theorem rank_successor {r : Role} (h : r ≠ .siteAdmin) : r.successor.rank = r.rank + 1 := by
  revert h
  cases r <;> decide

end Role

end Quartermaster
