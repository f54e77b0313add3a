
/-!
Path texts: their segments between slashes, the path of the directory around them, and a path
continued by another. Empty segments and single dots lead nowhere.
-/

namespace FlowClients.Path

def isAbsolute (path : String) : Bool := path.toList.head? == some '/'

/-- The segments of a path between its slashes, after the slash that makes it absolute. -/
def segments (path : String) : List String :=
  let text := if isAbsolute path then path.toList.drop 1 else path.toList
  (text.splitOn '/').map String.ofList

def isIdle (segment : String) : Bool := segment == "" || segment == "."

/-- Leave out idle segments at the end, but keep a dot that is all there is of a relative path. The
segments are given last first. -/
def dropIdle (absolute : Bool) : List String → List String
  | [] => []
  | ["."] => if absolute then [] else ["."]
  | segment :: rest => if isIdle segment then dropIdle absolute rest else segment :: rest

/-- The path without its last segment; the empty path and the root have none. -/
def parent? (path : String) : Option String :=
  match dropIdle (isAbsolute path) (segments path).reverse with
  | [] => none
  | _ :: rest =>
    let text := "/".intercalate (dropIdle (isAbsolute path) rest).reverse
    some (if isAbsolute path then "/" ++ text else text)

/-- A path below another; an absolute one replaces it. -/
def join (base path : String) : String :=
  if isAbsolute path then path
  else if base = "" ∨ base.toList.getLast? = some '/' then base ++ path
  else base ++ "/" ++ path

end FlowClients.Path
