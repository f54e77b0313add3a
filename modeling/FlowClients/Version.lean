import FlowClients.Sorted
import FlowClients.Text.Blank

/-!
The protocol version that clients are generated for, and the plugin parameter that chooses it: pairs
`key=value` separated by commas. Blank space around keys, values and pairs does not count, empty
pairs are skipped, and the last binding of a key holds.
-/

namespace FlowClients

/-- The two layouts of request paths. -/
inductive Version
  | v5
  | v6
deriving DecidableEq

/-- What stands before the service name in a request path. -/
def Version.pathRoot : Version → String
  | .v5 => "/twirp"
  | .v6 => ""

def Version.name : Version → String
  | .v5 => "v5"
  | .v6 => "v6"

inductive ParameterError
  | keyWithoutValue (pair : String)
  | unknownVersion (name : String)
deriving DecidableEq

def ParameterError.message : ParameterError → String
  | .keyWithoutValue pair => s!"invalid parameter '{pair}', expected key=value"
  | .unknownVersion name => s!"version is {name}, must be v5 or v6"

def Version.ofName (name : String) : Except ParameterError Version :=
  if name = "v5" then .ok .v5
  else if name = "v6" then .ok .v6
  else .error (.unknownVersion name)

/-- Keys with their values, in increasing order of keys. -/
abbrev Bindings := List (String × String)

namespace Bindings

def put (bindings : Bindings) (key value : String) : Bindings :=
  insertSorted (fun a b => a.1 < b.1) (key, value) bindings

def get? (bindings : Bindings) (key : String) : Option String :=
  (bindings.find? (·.1 == key)).map (·.2)

end Bindings

namespace Parameter

/-- The trimmed parts between commas that are not empty. -/
def segments (parameter : String) : List (List Char) :=
  ((parameter.toList.splitOn ',').map Text.trim).filter (!·.isEmpty)

/-- The key before the first equals sign and the value after it. -/
def binding (segment : List Char) : Except ParameterError (String × String) :=
  match segment.span (· != '=') with
  | (_, []) => .error (.keyWithoutValue (String.ofList segment))
  | (key, _ :: value) => .ok (String.ofList (Text.trim key), String.ofList (Text.trim value))

def bindings (parameter : String) : Except ParameterError Bindings :=
  (segments parameter).foldlM (fun known segment => do
    let (key, value) ← binding segment
    return known.put key value) []

end Parameter

/-- The version that a parameter asks for: version 5 unless it binds `version`. -/
def Version.ofParameter (parameter : Option String) : Except ParameterError Version := do
  let known ← match parameter with
    | some text => Parameter.bindings text
    | none => .ok []
  match known.get? "version" with
  | some name => Version.ofName name
  | none => return .v5

end FlowClients
