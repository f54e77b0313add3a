import FlowClients.Identifier

/-!
Module specifiers: the way from the directory of one generated module to another, up by `..` and
down again, without the extension of the target.
-/

namespace FlowClients.Specifier

/-- The segments of a path between its slashes; a path without a slash is one segment. -/
def segments (path : String) : List (List Char) := path.toList.splitOn '/'

/-- The number of leading elements that two lists share. -/
def commonLength [DecidableEq α] : List α → List α → Nat
  | x :: xs, y :: ys => if x = y then commonLength xs ys + 1 else 0
  | _, _ => 0

/-- Up from the directory of `source` to the last directory that it shares with `target`, and down.
-/
def way (source target : List (List Char)) : List (List Char) :=
  let shared := commonLength source.dropLast target.dropLast
  List.replicate (source.dropLast.length - shared) ['.', '.'] ++ target.drop shared

/-- A path without the extension of modules. -/
def stem (path : String) : String := (beforeEnding? moduleExtension path).getD path

/-- The specifier by which the module at `source` imports the module at `target`. One that does not
begin with two dots gets a dot and a slash in front. -/
def between (source target : String) : String :=
  let path := ['/'].intercalate (way (segments source) (segments (stem target)))
  String.ofList (if ['.', '.'].isPrefixOf path then path else '.' :: '/' :: path)

end FlowClients.Specifier
