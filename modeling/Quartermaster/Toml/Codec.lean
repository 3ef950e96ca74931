import Quartermaster.Toml.Document
import Quartermaster.Toml.Printer

/-!
# TOML codecs

A codec reads documents as tables and writes tables as documents. What is kept as TOML is kept
through a codec, whichever that is. `codec` is the one of this library. It writes texts, truth values
and integers under keys that need no quotes.
-/

namespace Quartermaster.Toml

structure Codec where
  /-- The table of a document, if it is one. -/
  parse : String → Option Entries
  /-- The document of a table, if it has one. -/
  print : Entries → Option String

/-- Whether a key stands without quotes. -/
def isBare (key : String) : Bool := !key.toList.isEmpty && key.toList.all isBareChar

/-- A value as it is written behind its key. An integer has 64 bits. -/
def Value.written? : Value → Option String
  | .text s => some (quote s)
  | .boolean b => some (toString b)
  | .integer n => if fitsWord n then some (toString n) else none
  | _ => none

/-- The line of a key and its value. -/
def lineOf (e : String × Value) : Option String :=
  if isBare e.1 then e.2.written?.map (assignment e.1) else none

def print (es : Entries) : Option String := (es.mapM lineOf).map String.join

def codec : Codec := { parse, print }

end Quartermaster.Toml
