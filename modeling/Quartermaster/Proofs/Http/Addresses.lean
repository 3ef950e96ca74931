import Quartermaster.Proofs.Answers
import Quartermaster.Proofs.Http.Segments
import Quartermaster.Proofs.Http.Surface

/-!
# Where new assets are found

An asset can be registered under any public id that is not blank, and is looked up by a path in
which nothing is decoded. So its address is its public id as it is: whoever writes that as a segment
finds the asset if nothing in it had to be escaped, and otherwise asks for another one.

1. `AssetKind.Registers.run_ok`: what is registered is stored, and its caller may look it up.
2. `AssetKind.get_run`: what a look-up shows.
3. `Http.addresses`.
-/

namespace Quartermaster

/-- The object has the value under the name. -/
def Json.Has (object : Json) (name : String) (v : Json) : Prop :=
  ∃ fields, object = .obj fields ∧ (name, v) ∈ fields

theorem Json.has_sorted {fields : List (String × Json)} {name : String} {v : Json} :
    (Json.sorted fields).Has name v ↔ (name, v) ∈ fields := by
  constructor
  · rintro ⟨_, ⟨⟩, among⟩
    exact List.mem_mergeSort.1 among
  · exact fun among => ⟨_, rfl, List.mem_mergeSort.2 among⟩

/-! ## Assets -/

/-- An asset of any kind, as a row. -/
inductive AssetRow where
  | equipment (row : Entry .equipment Equipment)
  | accessory (row : Entry .accessory Accessory)
  | consumable (row : Entry .consumable Consumable)

namespace AssetRow

def kind : AssetRow → AssetKind
  | .equipment _ => .equipment
  | .accessory _ => .accessory
  | .consumable _ => .consumable

def publicId : AssetRow → String
  | .equipment row => row.val.publicId
  | .accessory row => row.val.publicId
  | .consumable row => row.val.publicId

def json : AssetRow → Json
  | .equipment row => row.val.json
  | .accessory row => row.val.json
  | .consumable row => row.val.json

/-- The row is in the store. -/
def Stored (s : Store) : AssetRow → Prop
  | .equipment row => s.row? row.id = some row
  | .accessory row => s.row? row.id = some row
  | .consumable row => s.row? row.id = some row

theorem has_publicId {a : AssetRow} {v : Json} :
    a.json.Has "public_id" v ↔ v = .str a.publicId := by
  cases a <;> simp [json, publicId, Equipment.json, Equipment.fields, Accessory.json,
    Accessory.fields, Consumable.json, Consumable.fields, Json.has_sorted]

/-- Assets that are shown alike have one public id. -/
theorem publicId_of_json {a b : AssetRow} (h : a.json = b.json) : a.publicId = b.publicId := by
  have shown : b.json.Has "public_id" (.str a.publicId) := h ▸ has_publicId.2 rfl
  exact Json.str.inj (has_publicId.1 shown)

end AssetRow

namespace AssetKind

/-- The first segment of the paths of the assets of a kind. -/
def collection : AssetKind → String
  | .equipment => "equipment"
  | .accessory => "accessories"
  | .consumable => "consumables"

/-- The kind of the rows of the assets. -/
def rows : AssetKind → Kind
  | .equipment => .equipment
  | .accessory => .accessory
  | .consumable => .consumable

/-- The name under which an asset stands beside its custody. -/
def noun (kind : AssetKind) : String := kind.rows.noun

/-- The look-up of an asset. -/
def get (item : String) : AssetKind → CallerOp
  | .equipment => .equipment (.get item)
  | .accessory => .accessories (.get item)
  | .consumable => .consumables (.get item)

/-- The operation registers an asset of the kind. -/
inductive Registers : AssetKind → CallerOp → Prop
  | equipment (input : EquipmentInput) : Registers .equipment (.equipment (.register input))
  | accessory (input : AccessoryInput) : Registers .accessory (.accessories (.register input))
  | consumable (input : ConsumableInput) : Registers .consumable (.consumables (.register input))

end AssetKind

/-! ## Registering -/

section Names

variable {s s' : Store} {d : Setting} {ctx : Context}

theorem Minted.text_nonempty (supply n : Nat) : (Minted.text supply n).toList ≠ [] := by
  simp [Minted.text, Minted.stem]

theorem Text.nonempty_of_isBlank {text : String} (h : Text.isBlank text = false) :
    text.toList ≠ [] := by
  obtain ⟨c, among, _⟩ := Text.isBlank_eq_false_iff.1 h
  exact List.ne_nil_of_mem among

/-- No row is given an empty public id. -/
theorem Tx.publicIdOr_nonempty {given : Option String} {publicId : String}
    (h : Tx.publicIdOr given s = .ok (publicId, s')) : publicId.toList ≠ [] := by
  cases given with
  | some id =>
    obtain ⟨rfl, shown⟩ := (publicIdOr_ok h).1 id rfl
    exact Text.nonempty_of_isBlank shown
  | none =>
    obtain ⟨rfl, _⟩ := Prod.mk.inj (Except.ok.inj h)
    exact Minted.text_nonempty _ _

/-- Whether it begins with units or not, what is registered is the row. -/
theorem Tx.answer_of_stocked {α β : Type} {stocked : Prop} [Decidable stocked] {append : Tx β}
    {record : Tx Unit} {row : α} {events : List CustodyEvent} {done : Committed α}
    (h : (if stocked then do
            let _ ← append
            record
            return { answer := row, events }
          else do
            record
            return { answer := row, events } : Tx (Committed α)) s = .ok (done, s')) :
    done.answer = row := by
  split at h
  · simp only [bind_ok, pure_ok] at h
    obtain ⟨_, _, _, _, _, _, rfl, _⟩ := h
    rfl
  · simp only [bind_ok, pure_ok] at h
    obtain ⟨_, _, _, rfl, _⟩ := h
    rfl

namespace Custody

open Tx (bind_ok pure_ok insertOr_ok)

theorem registerEquipment_nonempty {input : EquipmentInput}
    {done : Committed (Entry .equipment Equipment)}
    (h : registerEquipment d ctx input s = .ok (done, s')) :
    done.answer.val.publicId.toList ≠ [] := by
  simp only [registerEquipment, bind_ok, pure_ok] at h
  obtain ⟨_, _, _, _, _, _, e, _, created, _, _, _, rfl, _⟩ := h
  simp only [Tx.createEquipment, bind_ok, insertOr_ok] at created
  obtain ⟨_, _, _, _, _, named, _, _, _, _, rfl, _⟩ := created
  exact Tx.publicIdOr_nonempty named

theorem registerAccessory_nonempty {input : AccessoryInput}
    {done : Committed (Entry .accessory Accessory)}
    (h : registerAccessory d ctx input s = .ok (done, s')) :
    done.answer.val.publicId.toList ≠ [] := by
  simp only [registerAccessory, bind_ok] at h
  obtain ⟨_, _, _, _, _, _, e, _, created, h⟩ := h
  simp only [Tx.createAccessory, bind_ok, insertOr_ok] at created
  obtain ⟨_, _, _, _, _, _, _, _, named, _, _, _, _, rfl, _⟩ := created
  rw [Tx.answer_of_stocked h]
  exact Tx.publicIdOr_nonempty named

theorem registerConsumable_nonempty {input : ConsumableInput}
    {done : Committed (Entry .consumable Consumable)}
    (h : registerConsumable d ctx input s = .ok (done, s')) :
    done.answer.val.publicId.toList ≠ [] := by
  simp only [registerConsumable, bind_ok] at h
  obtain ⟨_, _, _, _, _, _, e, _, created, h⟩ := h
  simp only [Tx.createConsumable, bind_ok, insertOr_ok] at created
  obtain ⟨_, _, _, _, _, _, _, _, _, _, _, named, _, _, _, _, rfl, _⟩ := created
  rw [Tx.answer_of_stocked h]
  exact Tx.publicIdOr_nonempty named

end Custody

/-- Whoever has some rank over a room has the viewer's. -/
theorem Store.Permits.viewer {required : Role} {room : Option RoomId}
    (h : s.Permits ctx required room) : s.Permits ctx .roomViewer room := by
  unfold Permits at h ⊢
  rw [permits_viewer]
  unfold Ancestry.permits at h
  cases bound : ctx.binding with
  | none =>
    rw [bound] at h
    cases h
  | some b =>
    simp only [bound] at h
    split at h
    · exact h
    · cases h

end Names

/-- What is so once a caller has registered an asset: it is told and stored, whoever could act still
can, and the caller may look it up. -/
structure Registered (s s' : Store) (ctx : Context) (answer : Answer) (a : AssetRow) : Prop where
  told : answer.json = a.json
  stored : a.Stored s'
  nonempty : a.publicId.toList ≠ []
  users : s'.users = s.users
  roleAssignments : s'.roleAssignments = s.roleAssignments
  found : ∀ d, ∃ shown, (a.kind.get a.publicId).run d s' ctx = .ofRead s' (.ok shown) ∧
    shown.json.Has a.kind.noun a.json

section Registering

variable {d : Setting} {s s' : Store} {ctx : Context} {answer : Answer} {done : Committed Answer}

theorem Outcome.ofRead_map_ok {α : Type} {x : Except Refusal α} {f : α → Answer} {a : α}
    (h : x = .ok a) : Outcome.ofRead s (x.map f) = .ofRead s (.ok (f a)) := by
  rw [h]
  rfl

theorem EquipmentStep.registered {input : EquipmentInput} {row : Entry .equipment Equipment}
    (step : EquipmentStep ctx s (.register input) done s') (reachable : Reachable s)
    (sound' : s'.Sound) (told : done.answer = .equipment row)
    (nonempty : row.val.publicId.toList ≠ []) :
    Registered s s' ctx done.answer (.equipment row) := by
  have permitted : s'.Permits ctx .roomViewer row.val.room := by
    cases step with
    | read is_read => cases is_read
    | register _ over_room _ in_room =>
      obtain rfl := Answer.equipment.inj told
      exact Store.Permits.viewer (in_room ▸ over_room)
  obtain ⟨custody, told', answers⟩ := step.answers reachable sound' rfl
  obtain rfl : custody.item = row := Answer.equipment.inj (told'.symm.trans told)
  exact {
    told := congrArg Answer.json told, stored := answers.item.stored _ rfl, nonempty
    users := by rw [step.frame]
    roleAssignments := by rw [step.frame]
    found _ := by
      refine ⟨_, Outcome.ofRead_map_ok (answers.found ctx permitted), ?_⟩
      exact Json.has_sorted.2 (List.mem_cons_self ..) }

theorem AccessoryStep.registered {input : AccessoryInput} {row : Entry .accessory Accessory}
    (step : AccessoryStep ctx s (.register input) done s') (reachable : Reachable s)
    (reachable' : Reachable s') (told : done.answer = .accessory row)
    (nonempty : row.val.publicId.toList ≠ []) :
    Registered s s' ctx done.answer (.accessory row) := by
  have permitted : s'.Permits ctx .roomViewer row.val.room := by
    cases step with
    | read is_read => cases is_read
    | registerEmpty _ over_room _ in_room | registerStocked _ over_room _ in_room =>
      obtain rfl := Answer.accessory.inj told
      exact Store.Permits.viewer (in_room ▸ over_room)
  obtain ⟨custody, told', answers⟩ := step.answers reachable reachable' rfl
  obtain rfl : custody.item = row := Answer.accessory.inj (told'.symm.trans told)
  exact {
    told := congrArg Answer.json told, stored := answers.item.stored _ rfl, nonempty
    users := by rw [step.frame]
    roleAssignments := by rw [step.frame]
    found _ := by
      refine ⟨_, Outcome.ofRead_map_ok (answers.found ctx permitted), ?_⟩
      exact Json.has_sorted.2 (List.mem_cons_self ..) }

theorem ConsumableStep.registered {input : ConsumableInput} {row : Entry .consumable Consumable}
    (step : ConsumableStep d ctx s (.register input) done s') (sound : s.Sound)
    (sound' : s'.Sound) (told : done.answer = .consumable row)
    (nonempty : row.val.publicId.toList ≠ []) :
    Registered s s' ctx done.answer (.consumable row) := by
  have permitted : s'.Permits ctx .roomViewer row.val.room := by
    cases step with
    | read is_read => cases is_read
    | registerEmpty _ over_room _ in_room | registerStocked _ over_room _ in_room =>
      obtain rfl := Answer.consumable.inj told
      exact Store.Permits.viewer (in_room ▸ over_room)
  obtain ⟨custody, told', answers⟩ := step.answers sound sound' rfl
  obtain rfl : custody.item = row := Answer.consumable.inj (told'.symm.trans told)
  exact {
    told := congrArg Answer.json told, stored := answers.item.stored _ rfl, nonempty
    users := by rw [step.frame]
    roleAssignments := by rw [step.frame]
    found _ := by
      refine ⟨_, Outcome.ofRead_map_ok (answers.found ctx permitted), ?_⟩
      exact Json.has_sorted.2 (List.mem_cons_self ..) }

/-- An operation that registers an asset, and is not refused, does. -/
theorem AssetKind.Registers.run_ok {kind : AssetKind} {op : CallerOp}
    (registers : kind.Registers op) (reachable : Reachable s)
    (answered : (op.run d s ctx).answer = .ok answer) :
    ∃ a : AssetRow, a.kind = kind ∧ Registered s (op.run d s ctx).store ctx answer a := by
  have after := reachable.run d (.caller ctx op)
  have sound := reachable.sound
  cases registers with
  | equipment input =>
    obtain ⟨done, s', ran, rfl, out⟩ := Setting.commit_mapOk answered
    obtain ⟨step, sound'⟩ := Custody.registerEquipment_ok sound ran
    refine ⟨.equipment done.answer, rfl, ?_⟩
    rw [show (CallerOp.equipment (.register input)).run d s ctx = _ from out]
    exact step.registered reachable sound' rfl (Custody.registerEquipment_nonempty ran)
  | accessory input =>
    obtain ⟨done, s', ran, rfl, out⟩ := Setting.commit_mapOk answered
    obtain ⟨step, _⟩ := Custody.registerAccessory_ok sound ran
    refine ⟨.accessory done.answer, rfl, ?_⟩
    rw [show (Operation.caller ctx (.accessories (.register input))).run d s = _ from out] at after
    rw [show (CallerOp.accessories (.register input)).run d s ctx = _ from out]
    exact step.registered reachable after rfl (Custody.registerAccessory_nonempty ran)
  | consumable input =>
    obtain ⟨done, s', ran, rfl, out⟩ := Setting.commit_mapOk answered
    obtain ⟨step, sound'⟩ := Custody.registerConsumable_ok sound ran
    refine ⟨.consumable done.answer, rfl, ?_⟩
    rw [show (CallerOp.consumables (.register input)).run d s ctx = _ from out]
    exact step.registered sound sound' rfl (Custody.registerConsumable_nonempty ran)

end Registering

/-! ## Looking up -/

/-- What a look-up by a public id can come to. -/
structure LookUp (s : Store) (kind : AssetKind) (id : String) (result : Except Refusal Answer) :
    Prop where
  shown {answer : Answer} : result = .ok answer → ∃ other : AssetRow, other.kind = kind ∧
    other.Stored s ∧ other.publicId = id ∧ ∀ v, answer.json.Has kind.noun v ↔ v = other.json
  absent : (∀ other : AssetRow, other.kind = kind → other.Stored s → other.publicId ≠ id) →
    result = .error (.missing (.named kind.rows id))

section LookingUp

variable {s : Store} {ctx : Context} {id : String}

/-- A row that is found by its public id is stored, and has it. -/
theorem Store.stored_of_named? {k : Kind} {α : Type} [Record k α] [Named k] {e : Entry k α}
    (sound : (Record.table s : Table k α).Sound) (named : s.named? k id = some e) :
    s.row? e.id = some e ∧ Named.publicId k e.val = id :=
  ⟨sound.get?_of_find? named, beq_iff_eq.1 (Table.mem_of_find? named).2⟩

/-- Where no stored row has the public id, none is found. -/
theorem Store.named_absent {k : Kind} {α : Type} [Record k α] [Named k]
    (sound : (Record.table s : Table k α).Sound)
    (absent : ∀ e : Entry k α, s.row? e.id = some e → Named.publicId k e.val ≠ id) :
    s.named k id = .error (.missing (.named k id)) := by
  unfold named
  cases found : s.named? k id with
  | none => rfl
  | some e =>
    obtain ⟨stored, called⟩ := stored_of_named? sound found
    exact absurd called (absent e stored)

theorem AssetKind.get_run (kind : AssetKind) (d : Setting) (ctx : Context) (id : String)
    (sound : s.Sound) :
    ∃ result, (kind.get id).run d s ctx = .ofRead s result ∧ LookUp s kind id result := by
  cases kind with
  | equipment =>
    refine ⟨_, rfl, fun answered => ?_, fun absent => ?_⟩
    · obtain ⟨custody, found, rfl⟩ := Results.map_ok.1 answered
      have item := Custody.getEquipment_item.symm.trans (congrArg (Except.map (·.item)) found)
      obtain ⟨named, _⟩ := Custody.findItem_ok.1 item
      obtain ⟨stored, called⟩ := Store.stored_of_named? sound.equipment named
      exact ⟨.equipment custody.item, rfl, stored, called, fun v => by
        simp [Answer.json, EquipmentCustody.json, Json.has_sorted, noun, rows, Kind.noun,
          AssetRow.json]⟩
    · have missing := Store.named_absent sound.equipment fun e => absent (.equipment e) rfl
      rw [Custody.getEquipment, Custody.findItem, missing]
      rfl
  | accessory =>
    refine ⟨_, rfl, fun answered => ?_, fun absent => ?_⟩
    · obtain ⟨custody, found, rfl⟩ := Results.map_ok.1 answered
      simp only [Custody.getAccessory, Results.bind_ok, Results.pure_ok] at found
      obtain ⟨e, item, units, _, rfl⟩ := found
      obtain ⟨named, _⟩ := Custody.findAccessory_ok.1 item
      obtain ⟨stored, called⟩ := Store.stored_of_named? sound.accessories named
      exact ⟨.accessory e, rfl, stored, called, fun v => by
        simp [Answer.json, AccessoryCustody.json, Json.has_sorted, noun, rows, Kind.noun,
          AssetRow.json]⟩
    · have missing := Store.named_absent sound.accessories fun e => absent (.accessory e) rfl
      rw [Custody.getAccessory, Custody.findAccessory, missing]
      rfl
  | consumable =>
    refine ⟨_, rfl, fun answered => ?_, fun absent => ?_⟩
    · obtain ⟨custody, found, rfl⟩ := Results.map_ok.1 answered
      have item := Custody.getConsumable_item.symm.trans (congrArg (Except.map (·.item)) found)
      obtain ⟨named, _⟩ := Custody.findConsumable_ok.1 item
      obtain ⟨stored, called⟩ := Store.stored_of_named? sound.consumables named
      exact ⟨.consumable custody.item, rfl, stored, called, fun v => by
        simp [Answer.json, ConsumableCustody.json, Json.has_sorted, noun, rows, Kind.noun,
          AssetRow.json]⟩
    · have missing := Store.named_absent sound.consumables fun e => absent (.consumable e) rfl
      rw [Custody.getConsumable, Custody.findConsumable, missing]
      rfl

/-- A context depends on people and their roles alone. -/
theorem Store.context_congr {s' : Store} (users : s'.users = s.users)
    (roleAssignments : s'.roleAssignments = s.roleAssignments) (user : String)
    (chosen : Option String) : s'.context user chosen = s.context user chosen := by
  unfold context named? row?
  simp only [Record.table, users, roleAssignments]

end LookingUp

namespace Http

variable {d : Setting} {s : Store} {r : Request} {kind : AssetKind} {ctx : Context}

/-- The look-up of an asset of a kind by its caller, with the id as it is written in the path. -/
def Request.lookUp (r : Request) (kind : AssetKind) (written : String) (body : Body) : Request :=
  { r with method := "GET", target := "/" ++ kind.collection ++ "/" ++ written, body }

/-- The response to a look-up that has found the asset. -/
def Response.Shows (r : Response) (a : AssetRow) : Prop :=
  r.status = 200 ∧ ∃ body, r.body = some body ∧ body.Has a.kind.noun a.json

/-- What is posted to a collection is an asset to be registered. -/
theorem Endpoint.find_collection (kind : AssetKind) (ctx : Context) :
    ∃ op, find ctx "POST" [kind.collection] = .ok (.call .created op) ∧
      ∀ body operation, op body = .ok operation →
        ∃ act, kind.Registers act ∧ operation = .caller ctx act := by
  have registers {α : Type} {shape : Json.Document.Shape α} {act : α → CallerOp}
      (all : ∀ input, kind.Registers (act input)) {body : Body} {operation : Operation}
      (read : (body.read shape).map (fun a => Operation.caller ctx (act a)) = .ok operation) :
      ∃ act, kind.Registers act ∧ operation = .caller ctx act := by
    obtain ⟨input, _, rfl⟩ := Results.map_ok.1 read
    exact ⟨_, all input, rfl⟩
  cases kind with
  | equipment => exact ⟨_, rfl, fun _ _ => registers .equipment⟩
  | accessory => exact ⟨_, rfl, fun _ _ => registers .accessory⟩
  | consumable => exact ⟨_, rfl, fun _ _ => registers .consumable⟩

/-- What is looked for in a collection is an asset of its kind. -/
theorem Endpoint.find_item (kind : AssetKind) (ctx : Context) (id : String) :
    find ctx "GET" [kind.collection, id] = .ok (plain ctx (kind.get id)) := by
  cases kind with
  | equipment => exact find_of_route (.equipmentGet id)
  | accessory => exact find_of_route (.accessoryGet id)
  | consumable => exact find_of_route (.consumableGet id)

/-- No refusal is answered like a success. -/
theorem status_refused_ne (why : Refusal) (how : Success) :
    (Response.ofRefusal why).status ≠ how.status := by
  show why.report.kind.status ≠ how.status
  cases why.report.kind <;> cases how <;> decide

/-- A request that has created something in a collection has registered an asset. -/
theorem handle_created (post : r.method = "POST") (there : segments r.target = [kind.collection])
    (created : (handle d s r).answer.status = 201) :
    ∃ ctx op answer, r.Resolves s ctx ∧ kind.Registers op ∧
      (op.run d s ctx).answer = .ok answer ∧
      handle d s r = (op.run d s ctx).map (respond .created) := by
  have handled := handle_handled d s r
  generalize handle d s r = o at created handled ⊢
  cases handled with
  | alive | unknown => cases created
  | unresolved | gated | undecoded => exact absurd created (status_refused_ne _ .created)
  | @ran ctx _ _ calls =>
    obtain ⟨resolved, op, asks, decoded⟩ := calls
    obtain ⟨_, found, registers⟩ := Endpoint.find_collection kind ctx
    rw [← post, ← there, Endpoint.find_of_route asks] at found
    obtain ⟨rfl, rfl⟩ := Endpoint.call.inj (Except.ok.inj found)
    obtain ⟨act, registered, rfl⟩ := registers _ _ decoded
    cases answered : (act.run d s ctx).answer with
    | error why =>
      have told : (respond .created (act.run d s ctx).answer).status = 201 := created
      rw [answered] at told
      exact absurd told (status_refused_ne _ .created)
    | ok answer => exact ⟨ctx, act, answer, resolved, registered, answered, rfl⟩

/-- A look-up of an asset by its caller is the look-up of whatever is written in the path. -/
theorem handle_lookUp {written : String} {body : Body} (resolved : r.Resolves s ctx)
    (whole : Segment.Whole written) :
    handle d s (r.lookUp kind written body) =
      ((kind.get written).run d s ctx).map (respond .ok) := by
  have collection : Segment.Whole kind.collection := by
    cases kind <;> exact ⟨by decide, List.all_eq_true.1 (by decide)⟩
  have there : segments (r.lookUp kind written body).target = [kind.collection, written] :=
    segments_pair collection whole
  have awake : (r.lookUp kind written body).isHealthCheck = false :=
    Request.awake (there ▸ by simp)
  have found : Endpoint.find ctx (r.lookUp kind written body).method
      [kind.collection, written] = .ok (Endpoint.plain ctx (kind.get written)) :=
    Endpoint.find_item kind ctx written
  rw [handle_of_resolves awake resolved, there, found]
  rfl

/-- What becomes of a look-up of an asset by its public id, as that is written with the `plain`
characters left as they are. -/
structure Addressed (d : Setting) (s : Store) (r : Request) (a : AssetRow) (plain : Char → Bool) :
    Prop where
  quiet : (handle d s r).Void s
  /-- It finds the asset if every character is left as it is. -/
  found : (∀ c ∈ a.publicId.toList, plain c = true) → (handle d s r).answer.Shows a
  /-- Otherwise it does not. -/
  elsewhere (c : Char) : c ∈ a.publicId.toList → plain c = false → ¬ (handle d s r).answer.Shows a
  /-- It is a look-up of the asset that has the written text as its public id. -/
  missing : (∀ other : AssetRow, other.kind = a.kind → other.Stored s →
      other.publicId ≠ Segment.encode plain a.publicId) →
    handle d s r = refuse s (.missing (.named a.kind.rows (Segment.encode plain a.publicId)))

theorem addressed {s' : Store} {answer : Answer} {a : AssetRow} {plain : Char → Bool} {body : Body}
    (sound' : s'.Sound) (registered : Registered s s' ctx answer a) (resolved : r.Resolves s' ctx)
    (allowed : ∀ c, plain c = true → isSegmentChar c = true) :
    Addressed d s' (r.lookUp a.kind (Segment.encode plain a.publicId) body) a plain := by
  obtain ⟨result, run, lookUp⟩ :=
    a.kind.get_run d ctx (Segment.encode plain a.publicId) sound'
  have handled : handle d s' (r.lookUp a.kind (Segment.encode plain a.publicId) body) =
      .ofRead s' (respond .ok result) := by
    rw [handle_lookUp resolved (Segment.whole_encode allowed registered.nonempty), run]
    rfl
  refine ⟨?_, fun left => ?_, fun c among escaped shows => ?_, fun absent => ?_⟩
  · rw [handled]
    exact Outcome.void_ofRead
  · obtain ⟨shown, ran, among⟩ := registered.found d
    have answered : result = .ok shown := by
      rw [Segment.encode_eq_self left, ran] at run
      exact (congrArg Outcome.answer run).symm
    rw [handled, answered]
    exact ⟨rfl, _, rfl, among⟩
  · rw [handled] at shows
    obtain ⟨ok, body, told, has⟩ := shows
    cases answered : result with
    | error why =>
      rw [answered] at ok
      exact status_refused_ne why .ok ok
    | ok answer =>
      rw [answered] at told
      obtain rfl := Option.some.inj told
      -- What is shown has the written text as its public id, and `a` has another one.
      obtain ⟨other, _, _, called, only⟩ := lookUp.shown answered
      have same := AssetRow.publicId_of_json ((only _).1 has)
      exact Segment.encode_ne_self among escaped (called.symm.trans same.symm)
  · rw [handled, lookUp.absent absent]
    rfl

theorem addresses (reachable : Reachable s) (post : r.method = "POST")
    (there : segments r.target = [kind.collection])
    (created : (handle d s r).answer.status = 201) :
    ∃ a : AssetRow, a.kind = kind ∧ a.Stored (handle d s r).store ∧
      (handle d s r).answer = .json 201 a.json ∧
      ∀ d' plain body, (∀ c, plain c = true → isSegmentChar c = true) →
        Addressed d' (handle d s r).store
          (r.lookUp kind (Segment.encode plain a.publicId) body) a plain := by
  obtain ⟨ctx, op, answer, resolved, registers, answered, handled⟩ :=
    handle_created post there created
  obtain ⟨a, rfl, registered⟩ := registers.run_ok reachable answered
  have after := reachable.run d (.caller ctx op)
  have resolves : r.Resolves (op.run d s ctx).store ctx := by
    obtain ⟨actor, named, resolved⟩ := resolved
    rw [← Store.context_congr registered.users registered.roleAssignments] at resolved
    exact ⟨actor, named, resolved⟩
  rw [handled]
  refine ⟨a, rfl, registered.stored, ?_, fun d' plain body allowed =>
    addressed after.sound registered resolves allowed⟩
  show respond .created (op.run d s ctx).answer = _
  rw [answered, ← registered.told]
  rfl

/-- A joinery with nothing in it but its administrator. -/
def joinery : Store := Store.serve {} {} [.directory (.bootstrap "root" "Root")]
where
  /-- Root registers a bench under the public id. -/
  bench (publicId : String) : Request :=
    { method := "POST", target := "/equipment", actor := some "root".toUTF8.toList
      body := .bytes (Json.obj
        [("public_id", .str publicId), ("name", .str "Bench")]).compact.toUTF8.toList }
  /-- The joinery with the bench. -/
  fitted (publicId : String) : Store := (handle {} joinery (bench publicId)).store
  /-- Root looks the bench up. -/
  lookUp (publicId : String) : Request :=
    (bench publicId).lookUp .equipment (Segment.encode isSegmentChar publicId) (.bytes [])

/-- A bench whose public id is written as it is is found. -/
theorem joinery_addresses : ∃ a : AssetRow, a.publicId = "oak-bench" ∧
    (handle {} joinery (joinery.bench "oak-bench")).answer = .json 201 a.json ∧
    (handle {} (joinery.fitted "oak-bench") (joinery.lookUp "oak-bench")).answer.Shows a := by
  have reachable : Reachable joinery := .serve (.seeded (.empty 0 0 0))
  have there : segments (joinery.bench "oak-bench").target = [AssetKind.equipment.collection] := by
    decide +kernel
  obtain ⟨a, is_equipment, stored, told, addressed⟩ :=
    addresses (d := {}) (r := joinery.bench "oak-bench") reachable rfl there (by decide +kernel)
  have names : (joinery.fitted "oak-bench").equipment.entries.map (·.val.publicId) =
      ["oak-bench"] := by decide +kernel
  cases a with
  | accessory | consumable => cases is_equipment
  | equipment row =>
    have named := List.mem_map_of_mem (f := (·.val.publicId)) (Table.mem_of_get? stored).1
    have called : row.val.publicId = "oak-bench" := List.mem_singleton.1 (names ▸ named)
    have found := (addressed {} isSegmentChar (.bytes []) fun _ => id).found
    refine ⟨.equipment row, called, told, ?_⟩
    simp only [AssetRow.publicId, called] at found
    exact found (List.all_eq_true.1 (by decide))

/-- A bench whose public id has a blank in it is not. -/
theorem joinery_bench_lost :
    Reachable joinery ∧
    (handle {} joinery (joinery.bench "oak bench")).answer.status = 201 ∧
    (joinery.fitted "oak bench").equipment.entries.map (·.val.publicId) = ["oak bench"] ∧
    (joinery.lookUp "oak bench").target = "/equipment/oak%20bench" ∧
    (handle {} (joinery.fitted "oak bench") (joinery.lookUp "oak bench")).answer.status = 404 :=
  ⟨.serve (.seeded (.empty 0 0 0)), by decide +kernel⟩

end Http

end Quartermaster
