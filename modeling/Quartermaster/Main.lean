import Quartermaster.Config
import Quartermaster.Http.Line

/-!
# The program

Keeps a store in memory and answers requests, one a line, until there are no more. With `--config`
it is set up from a file, and with `--bootstrap-admin` a user is made the first holder of the
highest role before the first request.
-/

namespace Quartermaster

/-- What the program is told when it starts. -/
structure Options where
  configFile : Option String := none
  bootstrapAdmin : Option String := none

/-- Reads the arguments behind those that made `o`. -/
def Options.read? (o : Options) : List String → Option Options
  | [] => some o
  | "--config" :: file :: rest => { o with configFile := some file }.read? rest
  | "-c" :: file :: rest => { o with configFile := some file }.read? rest
  | "--bootstrap-admin" :: user :: rest => { o with bootstrapAdmin := some user }.read? rest
  | _ => none

/-- What the operations are given under a configuration. -/
def Config.setting (c : Config) : Setting := { lowStockNotices := c.lowStockNotifications }

/-- What the first request meets in an empty store. A user that cannot be made the first holder of
the highest role is left as it is. -/
def Options.prepare (o : Options) (d : Setting) (s : Store) : Store :=
  match o.bootstrapAdmin with
  | some user => ((Operation.directory (.bootstrap user user)).run d s).store
  | none => s

/-- A supply of minted ids that nobody can foretell. -/
def randomSupply : IO Nat := do
  return (← IO.getRandomBytes 9).foldl (fun n b => n * 256 + b.toNat) 0

/-- The configuration in a file, or the default one without a file. -/
def Options.config (o : Options) : IO (Except Refusal Config) := do
  match o.configFile with
  | none => return .ok { storageDir := "." }
  | some file =>
    let document ← try pure (some (← IO.FS.readFile file)) catch _ => pure none
    return Config.load "." document

/-- Answers lines until there are no more. -/
partial def serve (d : Setting) (s : Store) (input output : IO.FS.Stream) : IO Unit := do
  let line ← input.getLine
  if line.isEmpty then return
  let outcome := Http.answerLine d s line
  output.putStrLn outcome.answer.toJson.compact
  output.flush
  serve d outcome.store input output

end Quartermaster

open Quartermaster in
def main (arguments : List String) : IO UInt32 := do
  match Options.read? {} arguments with
  | none =>
    IO.eprintln "usage: quartermaster [--config FILE] [--bootstrap-admin USER]"
    return 2
  | some options =>
    match ← options.config with
    | .error why =>
      IO.eprintln why.report.text
      return 1
    | .ok config =>
      let d := config.setting
      let s := options.prepare d { supply := ← randomSupply }
      serve d s (← IO.getStdin) (← IO.getStdout)
      return 0
