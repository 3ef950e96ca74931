import Quartermaster.Refusal
import Quartermaster.Toml.Codec

/-!
# Configuration

Seven settings, each with a default, kept as a TOML document, which a codec reads and writes. A key
that is not known is skipped; a known one over a value of another type, or over a number that its
field cannot hold, makes the document unreadable.
-/

namespace Quartermaster

structure Config where
  /-- The directory of the store and of the configuration. -/
  storageDir : String
  /-- The file of the store in that directory. -/
  databaseFile : String := "custody.db"
  httpPort : UInt16 := 8095
  bindAddress : String := "0.0.0.0"
  /-- How long a write waits for the store. -/
  busyTimeoutMs : UInt64 := 5000
  /-- How many events are kept for a slow listener. -/
  eventBusCapacity : UInt64 := 1024
  /-- Whether low stock is told to anybody. -/
  lowStockNotifications : Bool := true
  deriving DecidableEq, Repr

namespace Config

/-- A file in a directory. An absolute file stands for itself. -/
def join (directory file : String) : String :=
  if file.toList.head? == some '/' then file
  else if directory.isEmpty || directory.toList.getLast? == some '/' then directory ++ file
  else directory ++ "/" ++ file

def databasePath (c : Config) : String := join c.storageDir c.databaseFile

def configPath (c : Config) : String := join c.storageDir "config.toml"

/-- The whole seconds that a write waits. -/
def busyTimeoutSeconds (c : Config) : Nat := c.busyTimeoutMs.toNat / 1000

open Toml (Entries Value)

/-- Reads the value of a key, which has to be of the type of the field. -/
def field {α : Type} (es : Entries) (key : String) (read : Value → Option α) (default : α) :
    Option α :=
  match es.get? key with
  | none => some default
  | some v => read v

def text : Value → Option String
  | .text s => some s
  | _ => none

def flag : Value → Option Bool
  | .boolean b => some b
  | _ => none

/-- An integer that is not negative and below a limit. -/
def below (limit : Nat) : Value → Option Nat
  | .integer n => if 0 ≤ n ∧ n < limit then some n.toNat else none
  | _ => none

def port (v : Value) : Option UInt16 := (below UInt16.size v).map UInt16.ofNat

def word (v : Value) : Option UInt64 := (below UInt64.size v).map UInt64.ofNat

/-- The configuration of a table; what it leaves out is taken from `base`. -/
def ofEntries (base : Config) (es : Entries) : Option Config := do
  return {
    storageDir := ← field es "storage_dir" text base.storageDir
    databaseFile := ← field es "database_file" text base.databaseFile
    httpPort := ← field es "http_port" port base.httpPort
    bindAddress := ← field es "bind_address" text base.bindAddress
    busyTimeoutMs := ← field es "busy_timeout_ms" word base.busyTimeoutMs
    eventBusCapacity := ← field es "event_bus_capacity" word base.eventBusCapacity
    lowStockNotifications := ← field es "low_stock_notifications" flag base.lowStockNotifications }

/-- Reads the configuration in a file. `directory` is the storage directory of a configuration that
names none. -/
def load (directory : String) (file : Option String) (codec : Toml.Codec := Toml.codec) :
    Except Refusal Config :=
  match file with
  | none => .error .io
  | some document =>
    match (codec.parse document).bind (ofEntries { storageDir := directory }) with
    | some c => .ok c
    | none => .error .config

/-- The settings under their keys. -/
def table (c : Config) : Entries :=
  [("storage_dir", .text c.storageDir),
   ("database_file", .text c.databaseFile),
   ("http_port", .integer c.httpPort.toNat),
   ("bind_address", .text c.bindAddress),
   ("busy_timeout_ms", .integer c.busyTimeoutMs.toNat),
   ("event_bus_capacity", .integer c.eventBusCapacity.toNat),
   ("low_stock_notifications", .boolean c.lowStockNotifications)]

/-- The document of a configuration. -/
def save (c : Config) (codec : Toml.Codec := Toml.codec) : Except Refusal String :=
  match codec.print c.table with
  | some document => .ok document
  | none => .error .config

/-- What is done to a file, which is there with a text or is not. -/
abbrev OnFile := ExceptT Refusal (StateM (Option String))

/-- Writes a configuration to a file, once it has a document. -/
def saveTo (write : String → OnFile Unit) (c : Config) (codec : Toml.Codec := Toml.codec) :
    OnFile Unit := do
  write (← c.save codec)

end Config

end Quartermaster
