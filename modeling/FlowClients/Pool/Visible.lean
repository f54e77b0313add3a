import FlowClients.Descriptor

/-!
The files whose definitions a file may refer to: itself, its dependencies, and what these make
public.
-/

namespace FlowClients.Pool

/-- The files that a file makes visible to those that depend on it. -/
def publicImports (files : List FileDescriptor) (name : String) : List String :=
  match files.find? (·.name == name) with
  | none => []
  | some file => file.publicDependencies.filterMap fun
    | .ofNat position => file.dependencies[position]?
    | .negSucc _ => none

/-- Add the public imports of a file. One that was visible already is followed in its turn, a new
one is not; chains of more than `fuel` files are cut off. -/
def follow (files : List FileDescriptor) : Nat → List String → String → List String
  | 0, visible, _ => visible
  | fuel + 1, visible, name =>
    (publicImports files name).foldl
      (fun visible next =>
        if next ∈ visible then follow files fuel visible next else next :: visible) visible

def visibleFiles (files : List FileDescriptor) (file : FileDescriptor) : List String :=
  file.dependencies.foldl
    (fun visible name => follow files files.length (name :: visible) name) [file.name]

end FlowClients.Pool
