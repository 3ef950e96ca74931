import Quartermaster.Proofs.Store.Composed

/-!
# What an operation on the directory does

`DirectoryStep s op done s'`: in the store `s`, the operation `op` may leave the store `s'` and tell
`done`. Nobody is asked for a rank, and no custody row, ledger or audit row is touched. Of the
assets, deleting a room clears the reference to it and changes nothing else.

Result: `DirectoryOp.run_ok`. An operation that is not refused takes such a step, and the store
stays sound.
-/

namespace Quartermaster

inductive DirectoryStep (s : Store) : DirectoryOp → Committed Answer → Store → Prop
  | chain {node : Locator} {answer : Answer} : DirectoryStep s (.chain node) { answer } s
  | createDepartment {input : NodeInput} {e : Entry .department Department} {clock minted : Nat}
      (added : e.id = s.departments.next) :
      DirectoryStep s (.createDepartment input) { answer := .department e }
        { s with departments := s.departments.insert e.val, clock, minted }
  | createLocation {input : NodeInput} {e : Entry .location Location} {clock minted : Nat}
      (added : e.id = s.locations.next) :
      DirectoryStep s (.createLocation input) { answer := .location e }
        { s with locations := s.locations.insert e.val, clock, minted }
  | createRoom {input : NodeInput} {e : Entry .room Room} {clock minted : Nat}
      (added : e.id = s.rooms.next) :
      DirectoryStep s (.createRoom input) { answer := .room e }
        { s with rooms := s.rooms.insert e.val, clock, minted }
  | relocateRoom {room location : String} {r e : Entry .room Room} {l : Entry .location Location}
      (room_named : s.named? .room room = some r)
      (location_named : s.named? .location location = some l)
      (moved : e = { r with val := { r.val with location := some l.id } }) :
      DirectoryStep s (.relocateRoom room location) { answer := .room e }
        { s with rooms := s.rooms.put r.id e.val }
  | relocateLocation {location department : String} {l e : Entry .location Location}
      {d : Entry .department Department}
      (location_named : s.named? .location location = some l)
      (department_named : s.named? .department department = some d)
      (moved : e = { l with val := { l.val with department := some d.id } }) :
      DirectoryStep s (.relocateLocation location department) { answer := .location e }
        { s with locations := s.locations.put l.id e.val }
  | deleteNode {node : Locator} {scope : Scope} (resolved : s.resolve node = .ok scope) :
      DirectoryStep s (.deleteNode node) { answer := .nothing } (s.without scope)
  | createUser {input : UserInput} {e : Entry .user User} {clock minted : Nat}
      (added : e.id = s.users.next)
      (no_role : e.val.active = none) :
      DirectoryStep s (.createUser input) { answer := .user e }
        { s with users := s.users.insert e.val, clock, minted }
  | moveUser {user : String} {room : Option String} {target : Option RoomId} {u : Entry .user User}
      (user_named : s.named? .user user = some u)
      (placed : s.roomOf room = .ok target) :
      DirectoryStep s (.moveUser user room)
        { answer := .user { u with val := { u.val with room := target } } }
        { s with users := s.users.put u.id { u.val with room := target } }
  | bootstrapKnown {user displayName : String} {u : Entry .user User}
      {a : Entry .roleAssignment RoleAssignment} {publicId : String} {at' : Stamp}
      {clock minted : Nat}
      (none_yet : s.siteAdmins = [])
      (user_named : s.named? .user user = some u)
      (made : a = ⟨s.roleAssignments.next,
        { publicId, user := u.id, role := .siteAdmin, columns := {}, grantedBy := none
          createdAt := at' }⟩) :
      DirectoryStep s (.bootstrap user displayName) { answer := .role a }
        { s with
          roleAssignments := s.roleAssignments.insert a.val
          users := s.users.put u.id { u.val with active := some a.id }, clock, minted }
  | bootstrapNew {user displayName : String} {u : Entry .user User}
      {a : Entry .roleAssignment RoleAssignment} {publicId : String} {at' : Stamp}
      {clock minted : Nat}
      (none_yet : s.siteAdmins = [])
      (unknown : s.named? .user user = none)
      (added : u.id = s.users.next)
      (no_role : u.val.active = none)
      (made : a = ⟨s.roleAssignments.next,
        { publicId, user := u.id, role := .siteAdmin, columns := {}, grantedBy := none
          createdAt := at' }⟩) :
      DirectoryStep s (.bootstrap user displayName) { answer := .role a }
        { s with
          roleAssignments := s.roleAssignments.insert a.val
          users := (s.users.insert u.val).put u.id { u.val with active := some a.id }
          clock, minted }

/-- Only a room's own locator names it. -/
theorem Store.resolve_room {s : Store} {node : Locator} {id : RoomId}
    (h : s.resolve node = .ok (.room id)) :
    ∃ publicId r, node = .room publicId ∧ s.named? .room publicId = some r ∧ r.id = id := by
  cases node with
  | room publicId =>
    obtain ⟨r, named, same⟩ := Results.map_ok.1 h
    exact ⟨publicId, r, rfl, Store.named_ok.1 named, by simpa using same⟩
  | location publicId =>
    obtain ⟨_, _, other⟩ := Results.map_ok.1 h
    cases other
  | department publicId =>
    obtain ⟨_, _, other⟩ := Results.map_ok.1 h
    cases other

theorem Store.cleared_self {k : Kind} (gone : Id k) : Store.cleared gone (some gone) = none :=
  if_pos rfl

/-- Only a reference to what is gone is cleared. -/
theorem Store.cleared_of_ne {k : Kind} {gone : Id k} {reference : Option (Id k)}
    (ne : reference ≠ some gone) : Store.cleared gone reference = reference :=
  if_neg ne

theorem Store.eq_of_cleared_ne {k : Kind} {gone : Id k} {reference : Option (Id k)}
    (moved : Store.cleared gone reference ≠ reference) : reference = some gone :=
  Decidable.byContradiction fun ne => moved (cleared_of_ne ne)

namespace Directory

open Tx (bind_ok pure_ok read_ok get_ok require_ok present_ok)

variable {s s' : Store}

theorem moveUser_ok {user : String} {room : Option String} {u : Entry .user User} (sound : s.Sound)
    (h : moveUser user room s = .ok (u, s')) :
    DirectoryStep s (.moveUser user room) { answer := .user u } s' ∧ s'.Sound := by
  simp only [moveUser, bind_ok, read_ok, Store.named_ok, Custody.reload_ok] at h
  obtain ⟨v, _, ⟨user_named, rfl⟩, target, _, ⟨placed, rfl⟩, _, _, moved, reloaded, rfl⟩ := h
  have kept := sound.after moved
  obtain ⟨_, found, _, rfl⟩ := Tx.setUserRoom_ok.1 moved
  obtain rfl := Store.named_row sound.users user_named found
  obtain rfl := Option.some.inj (reloaded.symm.trans (Table.get?_put_self found))
  exact ⟨.moveUser user_named placed, kept⟩

theorem bootstrap_ok {user displayName : String} {a : Entry .roleAssignment RoleAssignment}
    (sound : s.Sound) (h : bootstrap user displayName s = .ok (a, s')) :
    DirectoryStep s (.bootstrap user displayName) { answer := .role a } s' ∧ s'.Sound := by
  simp only [bootstrap, bind_ok, get_ok, require_ok, List.isEmpty_iff] at h
  obtain ⟨_, _, ⟨rfl, rfl⟩, _, _, ⟨none_yet, rfl⟩, _, _, ⟨rfl, rfl⟩, h⟩ := h
  -- the first administrator may be somebody whom the store does not know yet
  cases named : Store.named? _ .user user with
  | some u =>
    rw [named] at h
    simp only [bind_ok, pure_ok] at h
    obtain ⟨_, _, ⟨rfl, rfl⟩, _, _, granted, _, _, pointed, rfl, rfl⟩ := h
    have kept := (sound.after granted).after pointed
    obtain ⟨_, _, _, rfl, _, rfl⟩ := Tx.createRoleAssignment_ok granted
    obtain ⟨unknown, _⟩ | ⟨_, found, _, rfl⟩ := Tx.setActive_ok pointed
    · exact absurd ((sound.users.get?_of_find? named).symm.trans unknown) (by simp)
    · obtain rfl := Store.named_row sound.users named found
      exact ⟨.bootstrapKnown none_yet named rfl, kept⟩
  | none =>
    rw [named] at h
    simp only [bind_ok, pure_ok] at h
    obtain ⟨u, _, created, _, _, granted, _, _, pointed, rfl, rfl⟩ := h
    have between := sound.after created
    have kept := (between.after granted).after pointed
    obtain ⟨_, _, added, no_role, rfl⟩ := Tx.createUser_ok created
    obtain ⟨_, _, _, rfl, _, rfl⟩ := Tx.createRoleAssignment_ok granted
    have present : Table.get? (Table.insert _ u.val) u.id = some u :=
      sound.users.numbered.get?_insert_self added
    obtain ⟨unknown, _⟩ | ⟨_, found, _, rfl⟩ := Tx.setActive_ok pointed
    · exact absurd (present.symm.trans unknown) (by simp)
    · obtain rfl := Option.some.inj (found.symm.trans present)
      exact ⟨.bootstrapNew none_yet named added no_role rfl, kept⟩

end Directory

/-- An operation on the directory that is not refused takes a step. -/
theorem DirectoryOp.run_ok {d : Setting} {s : Store} {op : DirectoryOp} {answer : Answer}
    (sound : s.Sound) (h : (op.run d s).answer = .ok answer) :
    ∃ done s', DirectoryStep s op done s' ∧ s'.Sound ∧ op.run d s = d.outcome done s' := by
  cases op with
  | createDepartment input =>
    obtain ⟨e, s', ran, _, out⟩ := Setting.commitQuietly_mapOk h
    have kept := sound.after ran
    obtain ⟨_, _, added, rfl⟩ := Tx.createDepartment_ok ran
    exact ⟨_, _, .createDepartment added, kept, out⟩
  | createLocation input =>
    obtain ⟨e, s', ran, _, out⟩ := Setting.commitQuietly_mapOk h
    have kept := sound.after ran
    obtain ⟨_, _, added, rfl⟩ := Tx.createLocation_ok ran
    exact ⟨_, _, .createLocation added, kept, out⟩
  | createRoom input =>
    obtain ⟨e, s', ran, _, out⟩ := Setting.commitQuietly_mapOk h
    have kept := sound.after ran
    obtain ⟨_, _, added, rfl⟩ := Tx.createRoom_ok ran
    exact ⟨_, _, .createRoom added, kept, out⟩
  | relocateRoom room location =>
    obtain ⟨e, s', ran, _, out⟩ := Setting.commitQuietly_mapOk h
    have kept := sound.after ran
    obtain ⟨_, _, room_named, location_named, moved, _, rfl⟩ := Tx.relocateRoom_ok ran
    exact ⟨_, _, .relocateRoom room_named location_named moved, kept, out⟩
  | relocateLocation location department =>
    obtain ⟨e, s', ran, _, out⟩ := Setting.commitQuietly_mapOk h
    have kept := sound.after ran
    obtain ⟨_, _, location_named, department_named, moved, _, rfl⟩ := Tx.relocateLocation_ok ran
    exact ⟨_, _, .relocateLocation location_named department_named moved, kept, out⟩
  | deleteNode node =>
    obtain ⟨_, s', ran, _, out⟩ := Setting.commitQuietly_mapOk h
    obtain ⟨scope, resolved, rfl⟩ := Tx.deleteNode_ok.1 ran
    exact ⟨_, _, .deleteNode resolved, sound.without scope, out⟩
  | chain node => exact ⟨{ answer }, s, .chain, sound, Setting.ofRead_ok h⟩
  | createUser input =>
    obtain ⟨e, s', ran, _, out⟩ := Setting.commitQuietly_mapOk h
    have kept := sound.after ran
    obtain ⟨_, _, added, no_role, rfl⟩ := Tx.createUser_ok ran
    exact ⟨_, _, .createUser added no_role, kept, out⟩
  | moveUser user room =>
    obtain ⟨u, s', ran, _, out⟩ := Setting.commitQuietly_mapOk h
    obtain ⟨step, kept⟩ := Directory.moveUser_ok sound ran
    exact ⟨_, s', step, kept, out⟩
  | bootstrap user displayName =>
    obtain ⟨a, s', ran, _, out⟩ := Setting.commitQuietly_mapOk h
    obtain ⟨step, kept⟩ := Directory.bootstrap_ok sound ran
    exact ⟨_, s', step, kept, out⟩

end Quartermaster
