import Quartermaster.Proofs.Containment
import Quartermaster.Proofs.Store.Sound

/-!
# Conditions as the storage reads them

`Condition.sql` is text for a storage in which a value may be missing, and whose logic has a third
value for what is then unknown. `Condition.truth` is the meaning of that text, clause by clause, over
the rows of the store.

Result: `truth_iff`. A condition is true of a room just when it admits the room, so a row whose truth
is unknown is left out like one of which the condition is false.
-/

namespace Quartermaster

namespace Sql

variable {α β : Type}

/-- Comparison: unknown if a value is missing. -/
def equal [BEq α] (a b : Option α) : Option Bool := a.bind fun x => b.map (x == ·)

/-- True if one is true, false if both are false. -/
def either : Option Bool → Option Bool → Option Bool
  | some true, _ | _, some true => some true
  | some false, some false => some false
  | _, _ => none

/-- True if both are true, false if one is false. -/
def both : Option Bool → Option Bool → Option Bool
  | some false, _ | _, some false => some false
  | some true, some true => some true
  | _, _ => none

/-- `IN`: equal to one of the values. -/
def within [BEq α] (a : Option α) : List (Option α) → Option Bool
  | [] => some false
  | b :: rest => either (equal a b) (within a rest)

/-- `WHERE` and `ON`: only the rows of which the condition is true. -/
def select (rows : List β) (condition : β → Option Bool) : List β :=
  rows.filter fun row => condition row == some true

theorem either_true {a b : Option Bool} :
    either a b = some true ↔ a = some true ∨ b = some true := by
  rcases a with _ | _ | _ <;> rcases b with _ | _ | _ <;> decide

theorem both_true {a b : Option Bool} :
    both a b = some true ↔ a = some true ∧ b = some true := by
  rcases a with _ | _ | _ <;> rcases b with _ | _ | _ <;> decide

theorem mem_select {rows : List β} {condition : β → Option Bool} {row : β} :
    row ∈ select rows condition ↔ row ∈ rows ∧ condition row = some true := by
  simp only [select, List.mem_filter, beq_iff_eq]

variable [BEq α] [LawfulBEq α]

/-- What is missing is equal to nothing, itself included. -/
theorem equal_true {a b : Option α} :
    equal a b = some true ↔ ∃ x, a = some x ∧ b = some x := by
  unfold equal
  simp only [Option.bind_eq_some_iff, Option.map_eq_some_iff, beq_iff_eq]
  constructor
  · rintro ⟨x, rfl, _, rfl, rfl⟩
    exact ⟨x, rfl, rfl⟩
  · rintro ⟨x, rfl, rfl⟩
    exact ⟨x, rfl, x, rfl, rfl⟩

theorem within_true {a : Option α} {values : List (Option α)} :
    within a values = some true ↔ ∃ x, a = some x ∧ some x ∈ values := by
  induction values with
  | nil => simp [within]
  | cons b rest ih =>
    rw [within, either_true, equal_true, ih]
    constructor
    · rintro (⟨x, rfl, rfl⟩ | ⟨x, rfl, later⟩)
      · exact ⟨x, rfl, List.mem_cons_self ..⟩
      · exact ⟨x, rfl, List.mem_cons_of_mem _ later⟩
    · rintro ⟨x, rfl, here⟩
      rcases List.mem_cons.1 here with rfl | later
      · exact .inl ⟨x, rfl, rfl⟩
      · exact .inr ⟨x, rfl, later⟩

end Sql

namespace Store

/-- `rooms JOIN locations ON rooms.location_id = locations.id` -/
def roomsInLocations (s : Store) : List (Entry .room Room × Entry .location Location) :=
  s.rooms.entries.flatMap fun r =>
    (Sql.select s.locations.entries fun l => Sql.equal r.val.location (some l.id)).map (r, ·)

variable {s : Store}

theorem mem_roomsInLocations {r : Entry .room Room} {l : Entry .location Location} :
    (r, l) ∈ s.roomsInLocations ↔
      r ∈ s.rooms.entries ∧ l ∈ s.locations.entries ∧ r.val.location = some l.id := by
  simp only [roomsInLocations, List.mem_flatMap, List.mem_map, Prod.mk.injEq, Sql.mem_select,
    Sql.equal_true, Option.some.injEq]
  constructor
  · rintro ⟨_, here, _, ⟨there, _, placed, rfl⟩, rfl, rfl⟩
    exact ⟨here, there, placed⟩
  · rintro ⟨here, there, placed⟩
    exact ⟨r, here, l, ⟨there, l.id, placed, rfl⟩, rfl, rfl⟩

end Store

namespace Condition

/-- What the text of the condition says of a room. -/
def truth (s : Store) (room : Option RoomId) : Condition → Option Bool
  | .unrestricted => Sql.equal (some 1) (some 1)
  | .nothing => Sql.equal (some 1) (some 0)
  | .room id => Sql.equal room (some id)
  | .location id =>
    Sql.within room
      ((Sql.select s.rooms.entries fun r => Sql.equal r.val.location (some id)).map
        fun r => some r.id)
  | .department id =>
    Sql.within room
      ((Sql.select s.roomsInLocations fun (_, l) => Sql.equal l.val.department (some id)).map
        fun (r, _) => some r.id)

variable {s : Store} {c : Condition}

/-- A condition is true of a room just when it admits the room. -/
theorem truth_iff (sound : s.Sound) {room : Option RoomId} :
    c.truth s room = some true ↔ c.admits s room = true := by
  have rooms {id : RoomId} {r : Entry .room Room} :
      s.row? id = some r ↔ r ∈ s.rooms.entries ∧ r.id = id := sound.rooms.numbered.get?_iff
  have locations {id : LocationId} {l : Entry .location Location} :
      s.row? id = some l ↔ l ∈ s.locations.entries ∧ l.id = id :=
    sound.locations.numbered.get?_iff
  cases c with
  | unrestricted => exact iff_of_true rfl rfl
  | nothing => exact iff_of_false (by simp [truth, Sql.equal]) (by simp [admits])
  | room id => simp [truth, admits, Sql.equal_true]
  | location id =>
    simp only [truth, admits, Sql.within_true, List.mem_map, Sql.mem_select, Sql.equal_true,
      Option.some.injEq, Option.any_eq_true, Option.bind_eq_some_iff, beq_iff_eq, rooms]
    constructor
    · rintro ⟨_, rfl, r, ⟨here, _, placed, rfl⟩, rfl⟩
      exact ⟨r, ⟨_, rfl, here, rfl⟩, placed⟩
    · rintro ⟨r, ⟨_, rfl, here, rfl⟩, placed⟩
      exact ⟨_, rfl, r, ⟨here, id, placed, rfl⟩, rfl⟩
  | department id =>
    simp only [truth, admits, Sql.within_true, List.mem_map, Sql.mem_select, Sql.equal_true,
      Option.some.injEq, Option.any_eq_true, Option.bind_eq_some_iff, beq_iff_eq, rooms, locations,
      Prod.exists]
    constructor
    · rintro ⟨_, rfl, r, l, ⟨joined, _, under, rfl⟩, rfl⟩
      obtain ⟨here, there, placed⟩ := Store.mem_roomsInLocations.1 joined
      exact ⟨r, ⟨_, rfl, here, rfl⟩, l, ⟨_, placed, there, rfl⟩, under⟩
    · rintro ⟨r, ⟨_, rfl, here, rfl⟩, l, ⟨_, placed, there, rfl⟩, under⟩
      exact ⟨_, rfl, r, l, ⟨Store.mem_roomsInLocations.2 ⟨here, there, placed⟩, id, under, rfl⟩, rfl⟩

end Condition

end Quartermaster
