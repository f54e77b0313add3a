import FlowClients.Descriptor

/-!
The elements of a schema file in the order in which they are visited: the file itself, then its
messages, enums, services and extensions; a message is followed by its oneofs, fields, nested
messages, enums and extensions, a service by its methods and an enum by its values.
-/

namespace FlowClients

/-- The full name of what is called `name` in a scope; the outermost scope has the empty name. -/
def qualify (scope name : String) : String := if scope = "" then name else scope ++ "." ++ name

/-- Every element of a list together with those before it; `earlier` stands before the list. -/
def withEarlier (earlier : List α) : List α → List (List α × α)
  | [] => []
  | x :: xs => (earlier, x) :: withEarlier (earlier ++ [x]) xs

namespace Pool

/-- Positions that lead from a file to an element: the numbers of members and places in their lists.
-/
abbrev Path := List Nat

inductive Declaration
  | file
  | message (descriptor : MessageDescriptor)
  | oneof (name : String)
  | field (owner : MessageDescriptor) (path : Path) (earlier : List FieldDescriptor)
      (descriptor : FieldDescriptor)
  | enum (descriptor : EnumDescriptor)
  | enumValue (owner : EnumDescriptor) (earlier : List EnumValueDescriptor)
      (descriptor : EnumValueDescriptor)
  | service (descriptor : ServiceDescriptor)
  | method (descriptor : MethodDescriptor)
  | extension (path : Path) (descriptor : FieldDescriptor)

/-- A declaration and the full name of what its own name is scoped in. -/
structure Element where
  scope : String
  declaration : Declaration

def enumElements (scope : String) (descriptor : EnumDescriptor) : List Element :=
  ⟨scope, .enum descriptor⟩ ::
    (withEarlier [] descriptor.values).map fun (earlier, value) =>
      ⟨scope, .enumValue descriptor earlier value⟩

def serviceElements (scope : String) (descriptor : ServiceDescriptor) : List Element :=
  ⟨scope, .service descriptor⟩ ::
    descriptor.methods.map fun method => ⟨qualify scope descriptor.name, .method method⟩

def extensionElements (scope : String) (path : Path) (extensions : List FieldDescriptor) :
    List Element :=
  (withEarlier [] extensions).map fun (earlier, descriptor) =>
    ⟨scope, .extension (path ++ [earlier.length]) descriptor⟩

def fieldElements (scope : String) (path : Path) (owner : MessageDescriptor) : List Element :=
  (withEarlier [] owner.fields).map fun (earlier, descriptor) =>
    ⟨scope, .field owner (path ++ [2, earlier.length]) earlier descriptor⟩

mutual

def messageElements (scope : String) (path : Path) : MessageTree → List Element
  | ⟨root, nested⟩ =>
    let fullName := qualify scope root.name
    ⟨scope, .message root⟩ ::
      (root.oneofs.map (⟨fullName, .oneof ·⟩) ++
        fieldElements fullName path root ++
        nestedElements fullName (path ++ [3]) 0 nested ++
        root.enums.flatMap (enumElements fullName) ++
        extensionElements fullName (path ++ [6]) root.extensions)

def nestedElements (scope : String) (path : Path) (index : Nat) : List MessageTree → List Element
  | [] => []
  | tree :: rest =>
    messageElements scope (path ++ [index]) tree ++ nestedElements scope path (index + 1) rest

end

def fileElements (file : FileDescriptor) : List Element :=
  ⟨"", .file⟩ ::
    (nestedElements file.package [4] 0 file.messages ++
      file.enums.flatMap (enumElements file.package) ++
      file.services.flatMap (serviceElements file.package) ++
      extensionElements file.package [7] file.extensions)

end Pool

end FlowClients
