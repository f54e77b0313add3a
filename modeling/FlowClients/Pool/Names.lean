import FlowClients.Pool.Element
import FlowClients.Pool.Rejection

/-!
The names that a set of schema files defines. Every full name is defined once, except that packages
may be opened any number of times and belong to the file that opened them first.
-/

namespace FlowClients.Pool

inductive Meaning
  | package
  | message (descriptor : MessageDescriptor)
  | enum (descriptor : EnumDescriptor)
  | service
  /-- A name that encloses nothing and is no type: a field, oneof, method, enum value or extension.
  -/
  | leaf

def Meaning.isPackage : Meaning → Bool
  | .package => true
  | _ => false

structure Definition where
  fullName : String
  /-- The name of the file that holds the definition. -/
  file : String
  meaning : Meaning

structure Names where
  /-- The names of the files so far. -/
  files : List String
  /-- The definitions so far, the latest first. -/
  definitions : List Definition

namespace Names

def empty : Names := ⟨[], []⟩

def find? (names : Names) (fullName : String) : Option Definition :=
  names.definitions.find? (·.fullName == fullName)

/-- Add a definition; opening a package again adds nothing. -/
def define (names : Names) (added : Definition) : Except Rejection Names :=
  match names.find? added.fullName with
  | none => .ok { names with definitions := added :: names.definitions }
  | some first =>
    if first.meaning.isPackage && added.meaning.isPackage then .ok names
    else if first.file = added.file then .error (.definedTwice added.fullName)
    else .error (.definedInFile added.fullName first.file)

def addFile (names : Names) (name : String) : Except Rejection Names :=
  if name ∈ names.files then .error (.fileAddedTwice name)
  else .ok { names with files := name :: names.files }

end Names

/-- A package and all packages around it, the outermost first. -/
def packageNames (package : String) : List String :=
  if package = "" then []
  else
    let parts := package.toList.splitOn '.'
    (List.range parts.length).map fun i => String.ofList (['.'].intercalate (parts.take (i + 1)))

/-- A field name without underscores and in small ASCII letters. -/
def foldedName (name : String) : List Char := (name.toList.filter (· != '_')).map Char.toLower

/-- In the newer dialect no two fields of a message may have the same folded name. -/
def checkFoldedNames (fields : List FieldDescriptor) : Except Rejection Unit :=
  (withEarlier [] fields).forM fun (earlier, field) =>
    match earlier.find? (foldedName ·.name == foldedName field.name) with
    | some first => .error (.camelCaseConflict first.name field.name)
    | none => .ok ()

/-- An enum has a value, and in the newer dialect its first number is zero. -/
def checkFirstValue (dialect : Dialect) (descriptor : EnumDescriptor) : Except Rejection Unit :=
  match descriptor.values with
  | [] => .error .enumWithoutValues
  | first :: _ =>
    if dialect = .proto3 ∧ first.number ≠ 0 then .error .firstEnumValueNotZero else .ok ()

/-- Add the names that an element defines. -/
def Element.define (file : FileDescriptor) (dialect : Dialect) (names : Names) (element : Element) :
    Except Rejection Names :=
  let add (name : String) (meaning : Meaning) :=
    names.define ⟨qualify element.scope name, file.name, meaning⟩
  match element.declaration with
  | .file => do
    let names ← names.addFile file.name
    (packageNames file.package).foldlM
      (fun names package => names.define ⟨package, file.name, .package⟩) names
  | .message descriptor => do
    let names ← add descriptor.name (.message descriptor)
    if dialect = .proto3 then checkFoldedNames descriptor.fields
    return names
  | .enum descriptor => do
    let names ← add descriptor.name (.enum descriptor)
    checkFirstValue dialect descriptor
    return names
  | .service descriptor => add descriptor.name .service
  | .oneof name => add name .leaf
  | .field _ _ _ descriptor | .extension _ descriptor => add descriptor.name .leaf
  | .enumValue _ _ descriptor => add descriptor.name .leaf
  | .method descriptor => add descriptor.name .leaf

/-- All names of a file, on top of those known. -/
def defineFile (names : Names) (file : FileDescriptor × Dialect) : Except Rejection Names :=
  (fileElements file.1).foldlM (Element.define file.1 file.2) names

def Names.ofFiles (files : List (FileDescriptor × Dialect)) : Except Rejection Names :=
  files.foldlM defineFile .empty

end FlowClients.Pool
