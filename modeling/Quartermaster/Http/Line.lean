import Quartermaster.Http.Server

/-!
# Requests and responses as lines

A request is a JSON record on one line, and its response is another. A line that holds no such
record is answered like a body that cannot be read.
-/

namespace Quartermaster.Http

open Json (Document)
open Json.Document (Shape record required optional string)

/-- A request with its headers and its body as text. -/
def request : Shape Request := fun d => do
  let found ← record ["method", "path", "actor", "role", "body"] d
  let bytes (text : String) : List UInt8 := text.toUTF8.toList
  return {
    method := ← required found "method" string
    target := ← required found "path" string
    actor := (← optional found "actor" string).map bytes
    assignment := (← optional found "role" string).map bytes
    body := .bytes (((← optional found "body" string).map bytes).getD []) }

def Response.toJson (r : Response) : Json :=
  .sorted
    [("status", .int r.status), ("content_type", .text? r.contentType),
     ("body", r.body.getD .null)]

/-- Answers the request on a line. -/
def answerLine (d : Setting) (s : Store) (line : String) : Outcome Response :=
  match (Document.parse line.toUTF8.toList).bind request with
  | some r => handle d s r
  | none => refuse s .json

end Quartermaster.Http
