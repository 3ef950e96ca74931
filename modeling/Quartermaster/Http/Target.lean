/-!
# Request targets

The path of a request target and its segments. The query and the fragment are no part of the path,
and nothing in it is decoded. Slashes at both ends do not count; one between two others makes an
empty segment.
-/

namespace Quartermaster.Http

/-- The part of the text in front of the first character with a property. -/
def before (p : Char → Bool) (text : List Char) : List Char := text.takeWhile (!p ·)

/-- The text behind `://`, if that is in it. -/
def afterScheme? : List Char → Option (List Char)
  | [] => none
  | c :: rest =>
    if "://".toList.isPrefixOf (c :: rest) then some (rest.drop 2) else afterScheme? rest

/-- The path of a target. Of an absolute target it begins behind the host, and it is `/` when
nothing comes there; a target that is a host alone has none. -/
def path (target : String) : List Char :=
  let text := before (fun c => c == '?' || c == '#') target.toList
  match text with
  | '/' :: _ => text
  | ['*'] => text
  | _ =>
    match afterScheme? text with
    | some rest =>
      match rest.dropWhile (· != '/') with
      | [] => ['/']
      | path => path
    | none => []

/-- The text without slashes at its ends. -/
def trimSlashes (text : List Char) : List Char :=
  ((text.dropWhile (· == '/')).reverse.dropWhile (· == '/')).reverse

/-- The pieces between the separators; text without one is one piece. -/
def split (sep : Char) : List Char → List (List Char)
  | [] => [[]]
  | c :: rest =>
    if c = sep then [] :: split sep rest
    else
      match split sep rest with
      | [] => [[c]]
      | piece :: pieces => (c :: piece) :: pieces

/-- The segments of the path of a target. -/
def segments (target : String) : List String :=
  (split '/' (trimSlashes (path target))).map String.ofList

end Quartermaster.Http
