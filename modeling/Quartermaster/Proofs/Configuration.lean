import Mathlib.Data.List.Nodup
import Quartermaster.Config
import Quartermaster.Proofs.Toml.Codec

/-!
# A configuration outlasts its document

A configuration that the format can hold is read again from its own document, and of every document
with some of its keys, among whatever else, just the missing settings are the defaults. One that the
format cannot hold is not written at all. This holds with every codec that makes its round trips.

1. `ofEntries_eq_some_iff`: a table is read as the one configuration that has the values in it, and
   the defaults where it has none.
2. `load_printed` and `save_of_not_writable`: when there is a document, and what is read of it.
3. `load_keeping`: a document with some of the settings is read as these.
4. `load_unaccepted`: one with a value that its key does not accept is refused.
5. `outlasts`: all of it.
-/

namespace Quartermaster.Config

open Toml (Codec Entries Value)

/-! ## Keys -/

/-- The settings, by their keys. -/
inductive Key where
  | storageDir | databaseFile | httpPort | bindAddress | busyTimeoutMs | eventBusCapacity
  | lowStockNotifications
  deriving DecidableEq, Repr

namespace Key

/-- The keys in the order in which they are written. -/
def all : List Key :=
  [.storageDir, .databaseFile, .httpPort, .bindAddress, .busyTimeoutMs, .eventBusCapacity,
   .lowStockNotifications]

def name : Key → String
  | .storageDir => "storage_dir"
  | .databaseFile => "database_file"
  | .httpPort => "http_port"
  | .bindAddress => "bind_address"
  | .busyTimeoutMs => "busy_timeout_ms"
  | .eventBusCapacity => "event_bus_capacity"
  | .lowStockNotifications => "low_stock_notifications"

/-- The value is of the type of the setting, and a number in its range. -/
def Accepts (v : Value) : Key → Prop
  | .storageDir | .databaseFile | .bindAddress => ∃ s, v = .text s
  | .httpPort => ∃ n, v = .integer n ∧ 0 ≤ n ∧ n < 0x10000
  | .busyTimeoutMs | .eventBusCapacity => ∃ n, v = .integer n ∧ 0 ≤ n ∧ n < 0x10000000000000000
  | .lowStockNotifications => ∃ b, v = .boolean b

theorem mem_all (k : Key) : k ∈ all := by cases k <;> decide

theorem name_injective {k k' : Key} (h : k.name = k'.name) : k = k' := by
  cases k <;> cases k' <;> first | rfl | exact absurd h (by decide)

theorem bare (k : Key) : Toml.Bare k.name := by
  cases k <;> exact ⟨by decide, List.all_eq_true.1 (by decide)⟩

end Key

/-- A number of sixteen bits as a value. -/
def portValue (p : UInt16) : Value := .integer p.toNat

/-- A number of 64 bits as a value. -/
def wordValue (w : UInt64) : Value := .integer w.toNat

theorem portValue_inj {p p' : UInt16} (h : portValue p = portValue p') : p = p' :=
  UInt16.toNat_inj.1 (Int.ofNat.inj (Value.integer.inj h))

theorem wordValue_inj {w w' : UInt64} (h : wordValue w = wordValue w') : w = w' :=
  UInt64.toNat_inj.1 (Int.ofNat.inj (Value.integer.inj h))

/-- The value of a setting. -/
def value (c : Config) : Key → Value
  | .storageDir => .text c.storageDir
  | .databaseFile => .text c.databaseFile
  | .httpPort => portValue c.httpPort
  | .bindAddress => .text c.bindAddress
  | .busyTimeoutMs => wordValue c.busyTimeoutMs
  | .eventBusCapacity => wordValue c.eventBusCapacity
  | .lowStockNotifications => .boolean c.lowStockNotifications

/-- The settings that are kept, under their keys. -/
def entries (c : Config) (kept : Key → Bool) : Entries :=
  (Key.all.filter kept).map fun k => (k.name, c.value k)

/-- The configuration has no number that the format has not. -/
def Writable (c : Config) : Prop :=
  c.busyTimeoutMs.toNat < 0x8000000000000000 ∧ c.eventBusCapacity.toNat < 0x8000000000000000

/-- The settings that are kept, and all others as in `base`. -/
def keeping (c base : Config) (kept : Key → Bool) : Config where
  storageDir := if kept .storageDir then c.storageDir else base.storageDir
  databaseFile := if kept .databaseFile then c.databaseFile else base.databaseFile
  httpPort := if kept .httpPort then c.httpPort else base.httpPort
  bindAddress := if kept .bindAddress then c.bindAddress else base.bindAddress
  busyTimeoutMs := if kept .busyTimeoutMs then c.busyTimeoutMs else base.busyTimeoutMs
  eventBusCapacity := if kept .eventBusCapacity then c.eventBusCapacity else base.eventBusCapacity
  lowStockNotifications :=
    if kept .lowStockNotifications then c.lowStockNotifications else base.lowStockNotifications

variable {codec : Codec} {c base : Config} {es : Entries} {kept : Key → Bool}

theorem value_keeping (k : Key) :
    (c.keeping base kept).value k = if kept k then c.value k else base.value k := by
  cases k <;> simp only [keeping, value] <;> split <;> rfl

theorem keeping_all : c.keeping base (fun _ => true) = c := rfl

/-! ## Tables -/

section Fields

variable {v : Value}

theorem text_eq_some {s : String} : text v = some s ↔ v = .text s := by
  cases v <;> simp [text]

theorem flag_eq_some {b : Bool} : flag v = some b ↔ v = .boolean b := by
  cases v <;> simp [flag]

theorem below_eq_some {limit n : Nat} : below limit v = some n ↔ v = .integer n ∧ n < limit := by
  cases v with
  | integer i =>
    simp only [below, Option.ite_none_right_eq_some, Option.some.injEq, Value.integer.injEq]
    omega
  | _ => simp [below]

theorem port_eq_some {p : UInt16} : port v = some p ↔ v = portValue p := by
  simp only [port, portValue, Option.map_eq_some_iff, below_eq_some]
  constructor
  · rintro ⟨n, ⟨rfl, small⟩, rfl⟩
    rw [UInt16.toNat_ofNat_of_lt' small]
  · exact fun same => ⟨p.toNat, ⟨same, p.toNat_lt_size⟩, UInt16.ofNat_toNat⟩

theorem word_eq_some {w : UInt64} : word v = some w ↔ v = wordValue w := by
  simp only [word, wordValue, Option.map_eq_some_iff, below_eq_some]
  constructor
  · rintro ⟨n, ⟨rfl, small⟩, rfl⟩
    rw [UInt64.toNat_ofNat_of_lt' small]
  · exact fun same => ⟨w.toNat, ⟨same, w.toNat_lt_size⟩, UInt64.ofNat_toNat⟩

/-- A field is read as the value that its key has, or as the default if it has none. -/
theorem field_eq_some {α : Type} {read : Value → Option α} {write : α → Value} {key : String}
    {default a : α} (reads : ∀ {v a}, read v = some a ↔ v = write a) :
    field es key read default = some a ↔
      es.get? key = some (write a) ∨ es.get? key = none ∧ a = default := by
  unfold field
  cases there : es.get? key with
  | none => simp [eq_comm]
  | some v => simp [reads]

end Fields

/-- A table is read as the configuration that has the values in it, and the defaults elsewhere. -/
theorem ofEntries_eq_some_iff : ofEntries base es = some c ↔
    ∀ k : Key, es.get? k.name = some (c.value k) ∨
      es.get? k.name = none ∧ c.value k = base.value k := by
  simp only [ofEntries, Option.bind_eq_bind, Option.bind_eq_some_iff, field_eq_some text_eq_some,
    field_eq_some port_eq_some, field_eq_some word_eq_some, field_eq_some flag_eq_some,
    Option.pure_def, Option.some.injEq]
  constructor
  · rintro ⟨_, storageDir, _, databaseFile, _, httpPort, _, bindAddress, _, busyTimeoutMs, _,
      eventBusCapacity, _, lowStockNotifications, rfl⟩ k
    cases k with
    | storageDir => exact storageDir.imp_right (.imp_right (congrArg _))
    | databaseFile => exact databaseFile.imp_right (.imp_right (congrArg _))
    | httpPort => exact httpPort.imp_right (.imp_right (congrArg portValue))
    | bindAddress => exact bindAddress.imp_right (.imp_right (congrArg _))
    | busyTimeoutMs => exact busyTimeoutMs.imp_right (.imp_right (congrArg wordValue))
    | eventBusCapacity => exact eventBusCapacity.imp_right (.imp_right (congrArg wordValue))
    | lowStockNotifications => exact lowStockNotifications.imp_right (.imp_right (congrArg _))
  · intro all
    exact ⟨_, (all .storageDir).imp_right (.imp_right Value.text.inj),
      _, (all .databaseFile).imp_right (.imp_right Value.text.inj),
      _, (all .httpPort).imp_right (.imp_right portValue_inj),
      _, (all .bindAddress).imp_right (.imp_right Value.text.inj),
      _, (all .busyTimeoutMs).imp_right (.imp_right wordValue_inj),
      _, (all .eventBusCapacity).imp_right (.imp_right wordValue_inj),
      _, (all .lowStockNotifications).imp_right (.imp_right Value.boolean.inj), rfl⟩

/-- What a configuration has under a key is what the key accepts. -/
theorem accepts_value (c : Config) (k : Key) : k.Accepts (c.value k) := by
  cases k with
  | storageDir | databaseFile | bindAddress | lowStockNotifications => exact ⟨_, rfl⟩
  | httpPort => exact ⟨_, rfl, Int.natCast_nonneg _, Int.ofNat_lt.2 c.httpPort.toNat_lt⟩
  | busyTimeoutMs => exact ⟨_, rfl, Int.natCast_nonneg _, Int.ofNat_lt.2 c.busyTimeoutMs.toNat_lt⟩
  | eventBusCapacity =>
    exact ⟨_, rfl, Int.natCast_nonneg _, Int.ofNat_lt.2 c.eventBusCapacity.toNat_lt⟩

/-! ## Reading -/

section Reading

variable {directory document : String}

theorem load_of_parse (parsed : codec.parse document = some es) :
    load directory (some document) codec = (match ofEntries { storageDir := directory } es with
      | some c => .ok c
      | none => .error .config) := by
  rw [load, parsed]
  rfl

/-- A document with some of the settings is read as these, and the defaults elsewhere. -/
theorem load_keeping (parsed : codec.parse document = some es)
    (there : ∀ k : Key, es.get? k.name = if kept k then some (c.value k) else none) :
    load directory (some document) codec = .ok (c.keeping { storageDir := directory } kept) := by
  have read : ofEntries { storageDir := directory } es =
      some (c.keeping { storageDir := directory } kept) := by
    refine ofEntries_eq_some_iff.2 fun k => ?_
    rw [value_keeping, there]
    split
    · exact .inl rfl
    · exact .inr ⟨rfl, rfl⟩
  rw [load_of_parse parsed, read]

example : load "/srv" (some "http_port = 9000\ncolour = \"red\"\n") =
    .ok { storageDir := "/srv", httpPort := 9000 } := by cbv

/-- A value that a key does not accept makes a document unreadable, whether it has a table or the
value leaves it none. -/
theorem load_unaccepted {k : Key} (unaccepted : ∀ es, codec.parse document = some es →
    ∃ v, es.get? k.name = some v ∧ ¬ k.Accepts v) :
    load directory (some document) codec = .error .config := by
  cases parsed : codec.parse document with
  | none => rw [load, parsed]; rfl
  | some es =>
    obtain ⟨v, given, unaccepted⟩ := unaccepted es parsed
    rw [load_of_parse parsed]
    cases read : ofEntries { storageDir := directory } es with
    | none => rfl
    | some c =>
      rcases ofEntries_eq_some_iff.1 read k with same | ⟨absent, _⟩
      · exact absurd (Option.some.inj (same.symm.trans given) ▸ c.accepts_value k) unaccepted
      · cases absent.symm.trans given

example : load "/srv" (some "http_port = \"eighty\"\n") = .error .config := by cbv

end Reading

/-! ## Entries -/

theorem table_eq (c : Config) : c.table = c.entries fun _ => true := rfl

theorem mem_entries {name : String} {v : Value} :
    (name, v) ∈ c.entries kept ↔ ∃ k : Key, kept k = true ∧ k.name = name ∧ c.value k = v := by
  simp [entries, Key.mem_all]

theorem keys_entries : (c.entries kept).map (·.1) = (Key.all.filter kept).map Key.name :=
  List.map_map

theorem distinct_entries : ((c.entries kept).map (·.1)).Nodup := by
  rw [keys_entries]
  exact List.Nodup.map (fun _ _ => Key.name_injective) (List.Nodup.filter _ (by decide))

theorem get?_entries (k : Key) :
    (c.entries kept).get? k.name = if kept k then some (c.value k) else none := by
  split
  · next is_kept =>
    exact (Entries.get?_eq_some_iff distinct_entries).2 (mem_entries.2 ⟨k, is_kept, rfl, rfl⟩)
  · next gone =>
    refine Entries.get?_eq_none_iff.2 fun among => ?_
    obtain ⟨k', is_kept, same⟩ := List.mem_map.1 (keys_entries ▸ among)
    exact gone (Key.name_injective same ▸ (List.mem_filter.1 is_kept).2)

/-! ## Writing -/

theorem fitsWord_natCast {n : Nat} : fitsWord n = true ↔ n < 0x8000000000000000 := by
  rw [fitsWord_iff]
  omega

/-- The values of a configuration that the format can hold can all be written. -/
theorem plain_value (writable : c.Writable) (k : Key) : (c.value k).Plain := by
  cases k with
  | storageDir | databaseFile | bindAddress | lowStockNotifications => trivial
  | httpPort => exact fitsWord_natCast.2 (Nat.lt_trans c.httpPort.toNat_lt (by decide))
  | busyTimeoutMs => exact fitsWord_natCast.2 writable.1
  | eventBusCapacity => exact fitsWord_natCast.2 writable.2

theorem plain_entries (writable : c.Writable) : (c.entries kept).Plain where
  distinct := distinct_entries
  bare := List.forall_mem_map.2 fun k _ => k.bare
  plain := List.forall_mem_map.2 fun k _ => plain_value writable k

theorem save_of_not_writable (trips : codec.RoundTrips) (unwritable : ¬ c.Writable) :
    c.save codec = .error .config := by
  have refused (k : Key) {n : Nat} (is_value : c.value k = .integer n)
      (large : ¬ n < 0x8000000000000000) : codec.print c.table = none := by
    have entry : (k.name, Value.integer n) ∈ c.table := by
      rw [table_eq]
      exact mem_entries.2 ⟨k, rfl, rfl, is_value⟩
    exact trips.refuses _ _ _ entry (Bool.eq_false_iff.2 (mt fitsWord_natCast.1 large))
  have unprinted : codec.print c.table = none := by
    by_cases waits : c.busyTimeoutMs.toNat < 0x8000000000000000
    · exact refused .eventBusCapacity rfl fun fits => unwritable ⟨waits, fits⟩
    · exact refused .busyTimeoutMs rfl waits
  rw [save, unprinted]

/-! ## Both -/

/-- Some of the settings among unknown keys, in any order, have a document, and they are what is
read of it. -/
theorem load_printed (trips : codec.RoundTrips) (writable : c.Writable) {unknown : Entries}
    (plain : unknown.Plain) (foreign : ∀ e ∈ unknown, ∀ k : Key, e.1 ≠ k.name)
    (mixed : es.Perm (c.entries kept ++ unknown)) :
    ∃ document, codec.print es = some document ∧ ∀ directory,
      load directory (some document) codec = .ok (c.keeping { storageDir := directory } kept) := by
  have own : (c.entries kept).Plain := plain_entries writable
  have distinct : ((c.entries kept ++ unknown).map (·.1)).Nodup := by
    rw [List.map_append, List.nodup_append]
    refine ⟨own.distinct, plain.distinct, ?_⟩
    rintro _ among _ elsewhere rfl
    obtain ⟨k, _, is_name⟩ := List.mem_map.1 (keys_entries ▸ among)
    obtain ⟨e, member, same⟩ := List.mem_map.1 elsewhere
    exact foreign e member k (same.trans is_name.symm)
  have whole : es.Plain := {
    distinct := (mixed.map _).nodup_iff.2 distinct
    bare := fun e member => (List.mem_append.1 (mixed.mem_iff.1 member)).elim (own.bare e)
      (plain.bare e)
    plain := fun e member => (List.mem_append.1 (mixed.mem_iff.1 member)).elim (own.plain e)
      (plain.plain e) }
  obtain ⟨document, table, printed, parsed, read⟩ := trips.reads_back es whole
  refine ⟨document, printed, fun directory => load_keeping parsed fun k => ?_⟩
  have unknown_has_not : unknown.get? k.name = none :=
    Entries.get?_eq_none_iff.2 fun among => by
      obtain ⟨e, member, same⟩ := List.mem_map.1 among
      exact foreign e member k same
  rw [read, Entries.get?_of_perm mixed distinct, Entries.get?_append_of_none unknown_has_not,
    get?_entries]

/-- What becomes of a configuration in its document. -/
structure Outlasts (codec : Codec) (c : Config) : Prop where
  /-- One that the format cannot hold is not written, and the file stays as it is. -/
  unwritten : ¬ c.Writable → ∀ write file,
    (c.saveTo write codec).run.run file = (.error .config, file)
  /-- Of any other a document is written and nothing else is done; and it is read again. -/
  read_back : c.Writable → ∃ document, (∀ write, c.saveTo write codec = write document) ∧
    ∀ directory, load directory (some document) codec = .ok c
  /-- Any of its settings among any unknown keys, in any order, have a document. Of that they are
  read again, and just the missing ones are the defaults. -/
  pruned (kept : Key → Bool) (unknown es : Entries) : c.Writable → unknown.Plain →
    (∀ e ∈ unknown, ∀ k : Key, e.1 ≠ k.name) → es.Perm (c.entries kept ++ unknown) →
    ∃ document, codec.print es = some document ∧ ∀ directory,
      load directory (some document) codec = .ok (c.keeping { storageDir := directory } kept)
  /-- So are any of its values in the table of any document, whatever else is there. -/
  table (document : String) (es : Entries) : codec.parse document = some es →
    (∀ k : Key, es.get? k.name = none ∨ es.get? k.name = some (c.value k)) →
    ∀ directory, load directory (some document) codec = .ok
      (c.keeping { storageDir := directory } fun k => (es.get? k.name).isSome)
  /-- No configuration is read from a document with a value of another type than its key has, or
  with a number out of the range of its key; the codec may refuse such a document itself. -/
  unaccepted (document : String) (k : Key) :
    (∀ es, codec.parse document = some es → ∃ v, es.get? k.name = some v ∧ ¬ k.Accepts v) →
    ∀ directory, load directory (some document) codec = .error .config

theorem outlasts {codec : Codec} (trips : codec.RoundTrips) (c : Config) : Outlasts codec c where
  unwritten unwritable write file := by
    rw [saveTo, save_of_not_writable trips unwritable]
    rfl
  read_back writable := by
    have plain : Entries.Plain [] := ⟨List.nodup_nil, nofun, nofun⟩
    have whole : c.table.Perm (c.entries (fun _ => true) ++ []) := by
      rw [table_eq, List.append_nil]
    obtain ⟨document, printed, read⟩ := load_printed trips writable plain nofun whole
    refine ⟨document, fun write => ?_, fun directory => (read directory).trans ?_⟩
    · rw [saveTo, save, printed]
      rfl
    · rw [keeping_all]
  pruned kept unknown es writable plain foreign mixed :=
    load_printed trips writable plain foreign mixed
  table document es parsed there directory := load_keeping parsed fun k => by
    rcases there k with absent | given <;> simp [*]
  unaccepted document k unaccepted directory := load_unaccepted unaccepted

/-- A configuration with a port of its own. -/
def quay : Config := { storageDir := "/quay", httpPort := 9000 }

theorem quay_outlasts : Toml.codec.RoundTrips ∧ Outlasts Toml.codec quay ∧
    (∃ document, Toml.codec.print [("colour", .text "red"), ("http_port", .integer 9000)] =
      some document ∧ ∀ directory, load directory (some document) =
        .ok { storageDir := directory, httpPort := 9000 }) ∧
    (∀ n : Int, fitsWord n = false → ∀ directory,
      load directory (some (Toml.document [⟨"busy_timeout_ms", toString n⟩])) = .error .config) ∧
    quay.save = .ok ("storage_dir = \"/quay\"\ndatabase_file = \"custody.db\"\n" ++
      "http_port = 9000\nbind_address = \"0.0.0.0\"\nbusy_timeout_ms = 5000\n" ++
      "event_bus_capacity = 1024\nlow_stock_notifications = true\n") := by
  have outlasts := outlasts Toml.codec_roundTrips quay
  have bare : Toml.Bare "colour" := ⟨by decide, List.all_eq_true.1 (by decide)⟩
  have unknown : Entries.Plain [("colour", .text "red")] :=
    ⟨by decide, List.forall_mem_singleton.2 bare, List.forall_mem_singleton.2 trivial⟩
  have foreign : ∀ e ∈ [("colour", Value.text "red")], ∀ k : Key, e.1 ≠ k.name :=
    List.forall_mem_singleton.2 fun k => by cases k <;> decide
  have own : quay.entries (· == .httpPort) = [("http_port", .integer 9000)] := rfl
  have mixed : List.Perm [("colour", .text "red"), ("http_port", .integer 9000)]
      (quay.entries (· == .httpPort) ++ [("colour", .text "red")]) := by
    rw [own]
    exact .swap ..
  have unparsed (n : Int) (large : fitsWord n = false) :
      Toml.parse (Toml.document [⟨"busy_timeout_ms", toString n⟩]) = none := by
    have line : Toml.AllRead [⟨"busy_timeout_ms", toString n⟩] fun _ => _ :=
      List.forall_mem_singleton.2 ⟨Key.busyTimeoutMs.bare, Toml.reads_integer n⟩
    exact Toml.parse_of_large line (List.mem_singleton_self _) large
  exact ⟨Toml.codec_roundTrips, outlasts,
    outlasts.pruned _ _ _ ⟨by decide, by decide⟩ unknown foreign mixed,
    fun n large => outlasts.unaccepted _ .busyTimeoutMs fun _ parsed =>
      absurd ((unparsed n large).symm.trans parsed) nofun, rfl⟩

end Quartermaster.Config
