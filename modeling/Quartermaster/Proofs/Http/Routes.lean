import Quartermaster.Http.Server
import Quartermaster.Proofs.OperationStep

/-!
# The routes

What is asked for at which method and path, as a table in which no line comes before another. The
program tries its patterns in an order, with the routes of an asset and those below `admin` apart.

1. `Endpoint.find_iff`, `Endpoint.find_notFound`: what it finds is what the table says.
2. `Endpoint.find_error`: only what is below `admin` is refused before it is looked at.
3. `Route.caller`, `Route.reads`: what the operations of the table may touch.
-/

namespace Quartermaster.Http

variable {ctx : Context} {method : String} {path rest : List String} {e : Endpoint}

/-- The routes that are open to a caller. Those below `admin` are open to holders of the highest
role alone. -/
inductive Route (ctx : Context) : String → List String → Endpoint → Prop
  | holdings : Route ctx "GET" ["me", "custody"] (.plain ctx .holdings)
  | roles : Route ctx "GET" ["me", "roles"] (.plain ctx (.roles .list))
  | grant :
      Route ctx "POST" ["roles"] (.withBody .created ctx grantInput fun input => .roles (.grant input))
  | activate (id : String) :
      Route ctx "POST" ["roles", id, "activate"] (.plain ctx (.roles (.activate id)))
  | revoke (id : String) :
      Route ctx "DELETE" ["roles", id]
        (.call .noContent fun _ => .ok (.caller ctx (.roles (.revoke id))))
  | equipmentList : Route ctx "GET" ["equipment"] (.plain ctx (.equipment .list))
  | equipmentRegister :
      Route ctx "POST" ["equipment"]
        (.withBody .created ctx equipmentInput fun input => .equipment (.register input))
  | equipmentGet (id : String) : Route ctx "GET" ["equipment", id] (.plain ctx (.equipment (.get id)))
  | equipmentHistory (id : String) :
      Route ctx "GET" ["equipment", id, "history"] (.plain ctx (.equipment (.history id)))
  | equipmentAssign (id : String) :
      Route ctx "POST" ["equipment", id, "assign"]
        (.withBody .created ctx handover fun (user, notes) => .equipment (.assign id user notes))
  | equipmentUnassign (id : String) :
      Route ctx "POST" ["equipment", id, "unassign"]
        (.withBody .ok ctx handover fun (user, notes) => .equipment (.unassign id user notes))
  | equipmentReassign (id : String) :
      Route ctx "POST" ["equipment", id, "reassign"]
        (.withBody .ok ctx reassignment fun (giver, receiver, notes) =>
          .equipment (.reassign id giver receiver notes))
  | equipmentStatus (id : String) :
      Route ctx "POST" ["equipment", id, "status"]
        (.withBody .ok ctx statusChange fun (status, notes) =>
          .equipment (.changeStatus id status notes))
  | accessoryList : Route ctx "GET" ["accessories"] (.plain ctx (.accessories .list))
  | accessoryRegister :
      Route ctx "POST" ["accessories"]
        (.withBody .created ctx accessoryInput fun input => .accessories (.register input))
  | accessoryGet (id : String) :
      Route ctx "GET" ["accessories", id] (.plain ctx (.accessories (.get id)))
  | accessoryHistory (id : String) :
      Route ctx "GET" ["accessories", id, "history"] (.plain ctx (.accessories (.history id)))
  | accessoryAssign (id : String) :
      Route ctx "POST" ["accessories", id, "assign"]
        (.withBody .created ctx unitsFor fun (user, quantity) =>
          .accessories (.assign id user quantity))
  | accessoryCondemn (id : String) :
      Route ctx "POST" ["accessories", id, "condemn"]
        (.withBody .ok ctx units fun quantity => .accessories (.condemn id quantity))
  | accessoryRestock (id : String) :
      Route ctx "POST" ["accessories", id, "restock"]
        (.withBody .ok ctx units fun quantity => .accessories (.restock id quantity))
  | accessoryReturn (id : String) :
      Route ctx "POST" ["accessory-assignments", id, "return"]
        (.withBody .ok ctx units fun quantity => .accessories (.takeBack id quantity))
  | consumableList : Route ctx "GET" ["consumables"] (.plain ctx (.consumables .list))
  | consumableRegister :
      Route ctx "POST" ["consumables"]
        (.withBody .created ctx consumableInput fun input => .consumables (.register input))
  | consumableGet (id : String) :
      Route ctx "GET" ["consumables", id] (.plain ctx (.consumables (.get id)))
  | consumableHistory (id : String) :
      Route ctx "GET" ["consumables", id, "history"] (.plain ctx (.consumables (.history id)))
  | consumableIssue (id : String) :
      Route ctx "POST" ["consumables", id, "issue"]
        (.withBody .created ctx issue fun (user, quantity, purpose) =>
          .consumables (.issue id user quantity purpose))
  | consumableUse (id : String) :
      Route ctx "POST" ["consumables", id, "use"]
        (.withBody .ok ctx units fun quantity => .consumables (.use id quantity))
  /-- A loss from an own issue. -/
  | consumableLoss (id : String) :
      Route ctx "POST" ["consumables", id, "loss"]
        (.withBody .ok ctx loss fun (quantity, kind) => .consumables (.reportLoss id quantity kind))
  | consumableRestock (id : String) :
      Route ctx "POST" ["consumables", id, "restock"]
        (.withBody .ok ctx units fun quantity => .consumables (.restock id quantity))
  | issueReturn (id : String) :
      Route ctx "POST" ["consumable-issues", id, "return"]
        (.withBody .ok ctx units fun quantity => .consumables (.takeBack id quantity))
  /-- A loss from anybody's issue. -/
  | issueLoss (id : String) :
      Route ctx "POST" ["consumable-issues", id, "loss"]
        (.withBody .ok ctx loss fun (quantity, kind) => .consumables (.recordLoss id quantity kind))
  | createDepartment (highest : Endpoint.isSiteAdmin ctx = true) :
      Route ctx "POST" ["admin", "departments"] (.directory .created nodeInput .createDepartment)
  | createLocation (highest : Endpoint.isSiteAdmin ctx = true) :
      Route ctx "POST" ["admin", "locations"] (.directory .created nodeInput .createLocation)
  | createRoom (highest : Endpoint.isSiteAdmin ctx = true) :
      Route ctx "POST" ["admin", "rooms"] (.directory .created nodeInput .createRoom)
  | createUser (highest : Endpoint.isSiteAdmin ctx = true) :
      Route ctx "POST" ["admin", "users"] (.directory .created userInput .createUser)
  | relocateRoom (highest : Endpoint.isSiteAdmin ctx = true) (id : String) :
      Route ctx "POST" ["admin", "rooms", id, "relocate"] (.directory .ok parent (.relocateRoom id))
  | relocateLocation (highest : Endpoint.isSiteAdmin ctx = true) (id : String) :
      Route ctx "POST" ["admin", "locations", id, "relocate"]
        (.directory .ok parent (.relocateLocation id))
  | moveUser (highest : Endpoint.isSiteAdmin ctx = true) (id : String) :
      Route ctx "POST" ["admin", "users", id, "room"] (.directory .ok roomOfUser (.moveUser id))
  | deleteNode (highest : Endpoint.isSiteAdmin ctx = true) {collection : String} (id : String)
      {node : Locator} (named : Endpoint.node? collection id = some node) :
      Route ctx "DELETE" ["admin", collection, id]
        (.call .noContent fun _ => .ok (.directory (.deleteNode node)))

namespace Endpoint

theorem equipment_route (found : equipment ctx method rest = e) :
    e = .notFound ∨ Route ctx method ("equipment" :: rest) e := by
  subst found
  unfold equipment
  split
  · exact .inr .equipmentList
  · exact .inr .equipmentRegister
  · exact .inr (.equipmentGet _)
  · exact .inr (.equipmentHistory _)
  · exact .inr (.equipmentAssign _)
  · exact .inr (.equipmentUnassign _)
  · exact .inr (.equipmentReassign _)
  · exact .inr (.equipmentStatus _)
  · exact .inl rfl

theorem accessories_route (found : accessories ctx method rest = e) :
    e = .notFound ∨ Route ctx method ("accessories" :: rest) e := by
  subst found
  unfold accessories
  split
  · exact .inr .accessoryList
  · exact .inr .accessoryRegister
  · exact .inr (.accessoryGet _)
  · exact .inr (.accessoryHistory _)
  · exact .inr (.accessoryAssign _)
  · exact .inr (.accessoryCondemn _)
  · exact .inr (.accessoryRestock _)
  · exact .inl rfl

theorem consumables_route (found : consumables ctx method rest = e) :
    e = .notFound ∨ Route ctx method ("consumables" :: rest) e := by
  subst found
  unfold consumables
  split
  · exact .inr .consumableList
  · exact .inr .consumableRegister
  · exact .inr (.consumableGet _)
  · exact .inr (.consumableHistory _)
  · exact .inr (.consumableIssue _)
  · exact .inr (.consumableUse _)
  · exact .inr (.consumableLoss _)
  · exact .inr (.consumableRestock _)
  · exact .inl rfl

theorem admin_route (highest : isSiteAdmin ctx = true) (found : admin method rest = e) :
    e = .notFound ∨ Route ctx method ("admin" :: rest) e := by
  subst found
  unfold admin
  split
  · exact .inr (.createDepartment highest)
  · exact .inr (.createLocation highest)
  · exact .inr (.createRoom highest)
  · exact .inr (.createUser highest)
  · exact .inr (.relocateRoom highest _)
  · exact .inr (.relocateLocation highest _)
  · exact .inr (.moveUser highest _)
  · split
    · next named => exact .inr (.deleteNode highest _ named)
    · exact .inl rfl
  · exact .inl rfl

/-- What is found is in the table, or is nothing. -/
theorem find_route (found : find ctx method path = .ok e) :
    e = .notFound ∨ Route ctx method path e := by
  unfold find at found
  split at found
  · exact .inr (Except.ok.inj found ▸ .holdings)
  · exact .inr (Except.ok.inj found ▸ .roles)
  · exact .inr (Except.ok.inj found ▸ .grant)
  · exact .inr (Except.ok.inj found ▸ .activate _)
  · exact .inr (Except.ok.inj found ▸ .revoke _)
  · exact equipment_route (Except.ok.inj found)
  · exact accessories_route (Except.ok.inj found)
  · exact consumables_route (Except.ok.inj found)
  · exact .inr (Except.ok.inj found ▸ .accessoryReturn _)
  · exact .inr (Except.ok.inj found ▸ .issueReturn _)
  · exact .inr (Except.ok.inj found ▸ .issueLoss _)
  · split at found
    · next highest => exact admin_route highest (Except.ok.inj found)
    · cases found
  · exact .inl (Except.ok.inj found).symm

/-- Below `admin` the caller is looked at before anything else. -/
theorem find_admin : find ctx method ("admin" :: rest) =
    if isSiteAdmin ctx then .ok (admin method rest)
    else .error (.forbidden .siteAdmin "scope tree") := by
  simp [find]

/-- What is in the table is found. -/
theorem find_of_route (route : Route ctx method path e) : find ctx method path = .ok e := by
  cases route with
  | createDepartment highest | createLocation highest | createRoom highest | createUser highest
  | relocateRoom highest | relocateLocation highest | moveUser highest =>
    exact find_admin.trans (if_pos highest)
  | deleteNode highest id named =>
    refine find_admin.trans ((if_pos highest).trans ?_)
    simp only [admin, named]
  | _ => rfl

theorem find_iff (there : e ≠ .notFound) :
    find ctx method path = .ok e ↔ Route ctx method path e :=
  ⟨fun found => (find_route found).resolve_left there, find_of_route⟩

/-- Nothing is found where the table has nothing. -/
theorem find_notFound (found : find ctx method path = .ok .notFound) :
    ∀ e, ¬ Route ctx method path e := by
  intro e route
  obtain rfl := Except.ok.inj (found.symm.trans (find_of_route route))
  cases route

/-- Only what is below `admin` is refused before it is looked at. -/
theorem find_error {why : Refusal} (refused : find ctx method path = .error why) :
    isSiteAdmin ctx = false ∧ (∃ rest, path = "admin" :: rest) ∧
      why = .forbidden .siteAdmin "scope tree" := by
  unfold find at refused
  split at refused
  case h_12 rest =>
    split at refused
    · cases refused
    · next lower => exact ⟨Bool.eq_false_iff.2 lower, ⟨rest, rfl⟩, (Except.error.inj refused).symm⟩
  all_goals cases refused

end Endpoint

namespace Route

variable {success : Success} {op : Body → Except Refusal Operation} {body : Body}
  {operation : Operation}

/-- What is open to everybody is done for the caller. -/
theorem caller (route : Route ctx method path (.call success op)) (asked : op body = .ok operation) :
    Endpoint.isSiteAdmin ctx = true ∨ ∃ act, operation = .caller ctx act := by
  cases route with
  | createDepartment highest | createLocation highest | createRoom highest | createUser highest
  | relocateRoom highest | relocateLocation highest | moveUser highest | deleteNode highest =>
    exact .inl highest
  | holdings | roles | activate | revoke | equipmentList | equipmentGet | equipmentHistory
  | accessoryList | accessoryGet | accessoryHistory | consumableList | consumableGet
  | consumableHistory => exact .inr ⟨_, (Except.ok.inj asked).symm⟩
  | _ =>
    obtain ⟨_, _, rfl⟩ := Results.map_ok.1 asked
    exact .inr ⟨_, rfl⟩

/-- What is asked for by `GET` only reads. -/
theorem reads {d : Setting} {s : Store} (route : Route ctx method path (.call success op))
    (get : method = "GET") (asked : op body = .ok operation) : (operation.run d s).Void s := by
  cases route with
  | holdings | roles | equipmentList | equipmentGet | equipmentHistory | accessoryList | accessoryGet
  | accessoryHistory | consumableList | consumableGet | consumableHistory =>
    obtain rfl := Except.ok.inj asked
    exact Outcome.void_ofRead
  | _ => exact absurd get (by decide)

end Route

end Quartermaster.Http
