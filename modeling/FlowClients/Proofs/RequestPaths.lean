import FlowClients.ClientModule
import FlowClients.Proofs.CompleteOutlines

/-!
The paths that calls are sent to. A path is put together from the full name of a service and the name
of a method, and can be taken apart again as long as the former has no slash. No two calls of a run
then share a path, since the full names of methods are unique.
-/

namespace FlowClients

open Pool

/-- The paths that the calls of a class are sent to, after the name of the host. -/
def ClassDecl.requestPaths (declaration : ClassDecl) : List String :=
  declaration.calls.map fun call => declaration.pathRoot ++ call.rpc

/-- The paths of all calls of all modules. -/
def Catalog.requestPaths (catalog : Catalog) (version : Version) : List String :=
  catalog.outlines.flatMap fun outline =>
    (outline.clientModule version catalog).classes.flatMap ClassDecl.requestPaths

/-- The path for a method, given with the full name of its service. -/
def Version.requestPath (version : Version) (method : String × String) : String :=
  version.pathRoot ++ "/" ++ method.1 ++ "/" ++ method.2

/-- The unary methods of a service, each with the full name of the service. -/
def ServiceDescriptor.unaryMethods (service : ServiceDescriptor) (package : String) :
    List (String × String) :=
  service.rpcs.map fun rpc => (qualify package service.name, rpc)

/-- The methods that calls are made for. -/
def unaryMethods (files : List FileDescriptor) : List (String × String) :=
  (files.filter (·.name ≠ timestampFile)).flatMap fun file =>
    file.services.flatMap (·.unaryMethods file.package)

theorem eq_of_append_cons {c : Char} {first second rest other : List Char}
    (free : c ∉ first) (otherFree : c ∉ second) (same : first ++ c :: rest = second ++ c :: other) :
    first = second ∧ rest = other := by
  induction first generalizing second with
  | nil =>
    cases second with
    | nil => exact ⟨rfl, (List.cons.inj same).2⟩
    | cons d _ => exact absurd ((List.cons.inj same).1 ▸ List.mem_cons_self) otherFree
  | cons d first ih =>
    cases second with
    | nil => exact absurd ((List.cons.inj same).1 ▸ List.mem_cons_self) free
    | cons e second =>
      obtain ⟨rfl, tails⟩ := List.cons.inj same
      obtain ⟨rfl, rests⟩ := ih (fun member => free (List.mem_cons_of_mem _ member))
        (fun member => otherFree (List.mem_cons_of_mem _ member)) tails
      exact ⟨rfl, rests⟩

theorem Version.requestPath_inj {version : Version} {a b : String × String}
    (slashless : '/' ∉ a.1.toList) (otherSlashless : '/' ∉ b.1.toList)
    (same : version.requestPath a = version.requestPath b) : a = b := by
  have texts := String.toList_inj.mpr same
  simp only [requestPath, String.toList_append, List.append_assoc, List.append_cancel_left_eq]
    at texts
  obtain ⟨services, methods⟩ := eq_of_append_cons slashless otherSlashless texts
  exact Prod.ext (String.toList_inj.mp services) (String.toList_inj.mp methods)

theorem slashless_qualify {package name : String} (inPackage : '/' ∉ package.toList)
    (inName : '/' ∉ name.toList) : '/' ∉ (qualify package name).toList := by
  unfold qualify
  split
  · exact inName
  · simp [inPackage, inName]

/-- The class of a service sends its calls to the paths of the unary methods. -/
theorem Service.Mirrors.requestPaths {service : Service} {file : FileDescriptor}
    {descriptor : ServiceDescriptor} (mirrors : service.Mirrors file descriptor)
    (version : Version) (catalog : Catalog) :
    (service.declaration version catalog).requestPaths =
      (descriptor.unaryMethods file.package).map version.requestPath := by
  have fullName : service.fullName = qualify file.package descriptor.name := by
    rw [Service.fullName, mirrors.name, mirrors.package]
    rfl
  have paths : (service.declaration version catalog).requestPaths =
      (service.methods.map (·.rpc)).map
        (version.pathRoot ++ "/" ++ service.fullName ++ "/" ++ ·) := by
    simp only [ClassDecl.requestPaths, Service.declaration, Method.declaration, List.map_map]
    rfl
  rw [paths, mirrors.rpcs, fullName, ServiceDescriptor.unaryMethods, List.map_map]
  rfl

/-- The full names of unary methods are among those that their file defines. -/
theorem unaryMethods_sublist (file : FileDescriptor) :
    ((file.services.flatMap (·.unaryMethods file.package)).map
      fun method => qualify method.1 method.2).Sublist ((fileDefinitions file).map (·.fullName)) := by
  have ofService : ∀ service : ServiceDescriptor,
      ((service.unaryMethods file.package).map fun method => qualify method.1 method.2).Sublist
        ((service.methods.map (methodDefinition file service)).map (·.fullName)) := by
    intro service
    rw [ServiceDescriptor.unaryMethods, ServiceDescriptor.rpcs, List.map_map, List.map_map,
      List.map_map]
    exact List.filter_sublist.map _
  refine List.Sublist.trans ?_ ((methodDefinitions_sublist file).map _)
  rw [List.map_flatMap, List.map_flatMap]
  exact List.Sublist.flatMap_right file.services fun service _ => ofService service

theorem Accepted.unaryMethods_nodup {files : List FileDescriptor} {names : Names}
    {schema : Schema} (accepted : Accepted files names schema) : (unaryMethods files).Nodup := by
  -- The pool defines no full name twice.
  have within : ((unaryMethods files).map fun method => qualify method.1 method.2).Sublist
      ((files.flatMap fileDefinitions).map (·.fullName)) := by
    rw [unaryMethods, List.map_flatMap, List.map_flatMap]
    refine (List.Sublist.flatMap_right _ fun file _ => unaryMethods_sublist file).trans ?_
    exact List.Sublist.flatMap List.filter_sublist _
  exact (accepted.holds.distinct_declared.sublist within).of_map _

/-- The calls of all modules that are made from accepted files go to the paths of the unary methods,
in their order. If packages and services have no slash in their names, no path occurs twice. -/
theorem request_paths_nodup {files : List FileDescriptor} {schema : Schema}
    (accepted : Schema.ofFiles files = .ok schema)
    (slashless : ∀ file ∈ files, '/' ∉ file.package.toList ∧
      ∀ service ∈ file.services, '/' ∉ service.name.toList) (version : Version) :
    ∃ catalog, Catalog.ofFiles files = .ok catalog ∧
      catalog.requestPaths version = (unaryMethods files).map version.requestPath ∧
      (catalog.requestPaths version).Nodup := by
  obtain ⟨names, known⟩ := Schema.ofFiles_accepted accepted
  have paths : schema.extracted.requestPaths version =
      (unaryMethods files).map version.requestPath := by
    rw [Catalog.requestPaths, unaryMethods, List.map_flatMap]
    refine flatMap_eq_of_forall₂ known.services_mirrored fun file outline mirrored => ?_
    rw [Outline.clientModule, List.flatMap_map, List.map_flatMap]
    exact flatMap_eq_of_forall₂ mirrored fun _ _ mirrors => mirrors.requestPaths version _
  refine ⟨schema.extracted, Catalog.ofFiles_eq_ok accepted, paths, ?_⟩
  have free : ∀ method ∈ unaryMethods files, '/' ∉ method.1.toList := by
    intro method member
    obtain ⟨file, fileMember, within⟩ := List.mem_flatMap.mp member
    obtain ⟨service, serviceMember, within⟩ := List.mem_flatMap.mp within
    obtain ⟨descriptor, _, rfl⟩ := List.mem_map.mp within
    obtain ⟨inPackage, inServices⟩ := slashless file (List.mem_filter.mp fileMember).1
    exact slashless_qualify inPackage (inServices service serviceMember)
  rw [paths]
  exact known.unaryMethods_nodup.map_on fun a first b second =>
    Version.requestPath_inj (free a first) (free b second)

/-- Services of one name in two packages, one of them the outermost, and methods whose names differ
in letter case only. -/
def echoFiles : List FileDescriptor :=
  [.plain "echo.proto" "" [] [.plain "Note" [] []]
    [⟨"Echo", [⟨"Ping", "Note", "Note", false, false⟩, ⟨"Watch", "Note", "Note", false, true⟩,
      ⟨"ping", "Note", "Note", false, false⟩]⟩],
   .plain "far/echo.proto" "far.away" [] [.plain "Note" [] []]
    [⟨"Echo", [⟨"Ping", "Note", "Note", false, false⟩]⟩]]

def echoSchema : Schema :=
  let note : Schema.MessageRef := ⟨"Note", "Note"⟩
  let farNote : Schema.MessageRef := ⟨"far.away.Note", "Note"⟩
  ⟨[⟨"echo.proto", "", [⟨"Note", []⟩],
      [⟨"Echo", [⟨"Ping", note, note, false⟩, ⟨"Watch", note, note, true⟩,
        ⟨"ping", note, note, false⟩]⟩]⟩,
    ⟨"far/echo.proto", "far.away", [⟨"Note", []⟩],
      [⟨"Echo", [⟨"Ping", farNote, farNote, false⟩]⟩]⟩]⟩

theorem echoFiles_accepted : Schema.ofFiles echoFiles = .ok echoSchema := by rfl

theorem request_paths_nodup_echo :
    ∃ catalog, Catalog.ofFiles echoFiles = .ok catalog ∧
      catalog.requestPaths .v5 =
        ["/twirp/Echo/Ping", "/twirp/Echo/ping", "/twirp/far.away.Echo/Ping"] ∧
      (catalog.requestPaths .v5).Nodup := by
  obtain ⟨catalog, run, paths, distinct⟩ :=
    request_paths_nodup echoFiles_accepted (by decide) .v5
  exact ⟨catalog, run, paths.trans (by decide), distinct⟩

end FlowClients
