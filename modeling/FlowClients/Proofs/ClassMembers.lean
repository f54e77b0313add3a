import FlowClients.Proofs.ClassText
import FlowClients.Proofs.LetterCase
import FlowClients.Proofs.RequestPaths

/-!
Which classes have two members of one name. A call is named after its method, with a small first
letter, and nothing keeps that name away from the names of other calls and of the fixed members. The
names of the methods differ, so two calls share a name only if their methods differ in the case of
the first letter.
-/

namespace FlowClients

open Pool

def ClassDecl.memberNames (declaration : ClassDecl) : List String :=
  declaration.members.map (·.name)

/-- The members that every class has. -/
def fixedMembers : List String := ["hostname", "pathPrefix", "constructor"]

/-- Unary methods are told apart by more than the case of their first letters, both from each other
and from the fixed members. -/
structure ServiceDescriptor.CallsApart (service : ServiceDescriptor) : Prop where
  fromCalls : ∀ a ∈ service.rpcs, ∀ b ∈ service.rpcs, isCapitalOf a b = false
  fromFixed : ∀ word ∈ fixedMembers, ∀ rpc ∈ service.rpcs, isWord word rpc = false

instance (service : ServiceDescriptor) : Decidable service.CallsApart :=
  decidable_of_iff
    ((∀ a ∈ service.rpcs, ∀ b ∈ service.rpcs, isCapitalOf a b = false) ∧
      ∀ word ∈ fixedMembers, ∀ rpc ∈ service.rpcs, isWord word rpc = false)
    ⟨fun ⟨calls, fixed⟩ => ⟨calls, fixed⟩, fun apart => ⟨apart.fromCalls, apart.fromFixed⟩⟩

theorem Accepted.rpcs_nodup {files : List FileDescriptor} {names : Names} {schema : Schema}
    (accepted : Accepted files names schema) {file : FileDescriptor} {service : ServiceDescriptor}
    (present : file ∈ files.filter (·.name ≠ timestampFile)) (declared : service ∈ file.services) :
    service.rpcs.Nodup := by
  have within : (service.unaryMethods file.package).Sublist (unaryMethods files) :=
    (sublist_flatMap (·.unaryMethods file.package) declared).trans
      (sublist_flatMap (fun file => file.services.flatMap (·.unaryMethods file.package)) present)
  exact (accepted.unaryMethods_nodup.sublist within).of_map _

theorem Service.Mirrors.memberNames {service : Service} {file : FileDescriptor}
    {descriptor : ServiceDescriptor} (mirrors : service.Mirrors file descriptor)
    (version : Version) (catalog : Catalog) :
    (service.declaration version catalog).memberNames =
      fixedMembers ++ descriptor.rpcs.map decapitalize := by
  rw [← mirrors.callNames]
  simp only [ClassDecl.memberNames, ClassDecl.members, Service.declaration, Method.declaration,
    List.map_append, List.map_map]
  rfl

theorem callNames_nodup_iff {rpcs : List String} (distinct : rpcs.Nodup)
    (ascii : ∀ rpc ∈ rpcs, isAscii rpc = true) :
    (rpcs.map decapitalize).Nodup ↔ ∀ a ∈ rpcs, ∀ b ∈ rpcs, isCapitalOf a b = false := by
  rw [List.nodup_map_iff_inj_on distinct]
  constructor
  · intro injective a first b second
    by_contra capitalized
    rw [Bool.not_eq_false] at capitalized
    have same := (decapitalize_eq_iff (ascii a first) (ascii b second)).mpr
      (Or.inr (Or.inl capitalized))
    exact ne_of_isCapitalOf capitalized (injective a first b second same)
  · intro apart a first b second same
    rcases (decapitalize_eq_iff (ascii a first) (ascii b second)).mp same with
      equal | capitalized | capitalized
    · exact equal
    · exact absurd capitalized (apart a first b second ▸ Bool.false_ne_true)
    · exact absurd capitalized (apart b second a first ▸ Bool.false_ne_true)

theorem fixedMembers_append_nodup_iff {service : ServiceDescriptor} (distinct : service.rpcs.Nodup)
    (ascii : ∀ rpc ∈ service.rpcs, isAscii rpc = true) :
    (fixedMembers ++ service.rpcs.map decapitalize).Nodup ↔ service.CallsApart := by
  have fixedDistinct : fixedMembers.Nodup := by decide
  have words : ∀ word ∈ fixedMembers, isAscii word = true ∧ startsSmall word = true := by decide
  have fixedApart : (∀ word ∈ fixedMembers, ∀ name ∈ service.rpcs.map decapitalize, word ≠ name) ↔
      ∀ word ∈ fixedMembers, ∀ rpc ∈ service.rpcs, isWord word rpc = false := by
    refine forall₂_congr fun word fixed => ?_
    rw [List.forall_mem_map]
    refine forall₂_congr fun rpc member => ?_
    have taken := decapitalize_eq_word (ascii rpc member) (words word fixed).1 (words word fixed).2
    rw [← Bool.not_eq_true, ← taken]
    exact ne_comm
  rw [List.nodup_append, callNames_nodup_iff distinct ascii, fixedApart]
  exact ⟨fun ⟨_, calls, fixed⟩ => ⟨calls, fixed⟩,
    fun apart => ⟨fixedDistinct, apart.fromCalls, apart.fromFixed⟩⟩

/-- The classes of the modules that are made from accepted files stand for the services, and the text
of a class is made up of its members. No name of a member occurs twice exactly if the unary methods
of the service are told apart from each other and from the fixed members. -/
theorem class_members_nodup_iff {files : List FileDescriptor} {schema : Schema}
    (accepted : Schema.ofFiles files = .ok schema)
    (identifiers : ∀ file ∈ files, ∀ service ∈ file.services, ∀ method ∈ service.methods,
      isIdentifier method.name = true) (version : Version) :
    ∃ catalog, Catalog.ofFiles files = .ok catalog ∧
      List.Forall₂ (fun file outline => List.Forall₂ (fun service declaration =>
          ClientModule.classText declaration = "\n\nexport class " ++ declaration.name ++ " \x7b" ++
            String.join (declaration.members.map ClassMember.text) ++ "\n\x7d" ∧
          declaration.memberNames = fixedMembers ++ service.rpcs.map decapitalize ∧
          (declaration.memberNames.Nodup ↔ service.CallsApart))
          file.services (outline.clientModule version catalog).classes)
        (files.filter (·.name ≠ timestampFile)) catalog.outlines := by
  obtain ⟨names, known⟩ := Schema.ofFiles_accepted accepted
  refine ⟨schema.extracted, Catalog.ofFiles_eq_ok accepted, ?_⟩
  have inFiles := (List.forall₂_and_left _ _).mpr ⟨fun _ member => member, known.services_mirrored⟩
  refine inFiles.imp fun file outline ⟨present, mirrored⟩ => ?_
  have inServices := (List.forall₂_and_left _ _).mpr ⟨fun _ member => member, mirrored⟩
  refine List.forall₂_map_right_iff.mpr (inServices.imp fun service _ ⟨declared, mirrors⟩ => ?_)
  have ascii : ∀ rpc ∈ service.rpcs, isAscii rpc = true := by
    intro rpc member
    obtain ⟨method, within, rfl⟩ := List.mem_map.mp member
    exact isAscii_of_identifier (identifiers file (List.mem_filter.mp present).1 service declared
      method (List.mem_filter.mp within).1)
  have memberNames := mirrors.memberNames version schema.extracted
  refine ⟨ClientModule.classText_eq _, memberNames, ?_⟩
  rw [memberNames]
  exact fixedMembers_append_nodup_iff (known.rpcs_nodup present declared) ascii

theorem class_members_nodup_iff_echo :
    ∃ catalog near far, Catalog.ofFiles echoFiles = .ok catalog ∧
      (catalog.outlines.flatMap fun outline => (outline.clientModule .v5 catalog).classes) =
        [near, far] ∧
      near.memberNames = ["hostname", "pathPrefix", "constructor", "ping", "ping"] ∧
      ¬ near.memberNames.Nodup ∧ far.memberNames.Nodup := by
  obtain ⟨catalog, run, related⟩ :=
    class_members_nodup_iff echoFiles_accepted (by decide) .v5
  have kept : echoFiles.filter (·.name ≠ timestampFile) = echoFiles := rfl
  rw [kept] at related
  obtain ⟨first, _, nearClasses, others, outlines⟩ := List.forall₂_cons_left_iff.mp related
  obtain ⟨second, _, farClasses, none, only⟩ := List.forall₂_cons_left_iff.mp others
  cases none
  obtain ⟨near, _, ⟨_, names, apart⟩, none, single⟩ := List.forall₂_cons_left_iff.mp nearClasses
  cases none
  obtain ⟨far, _, ⟨_, _, farApart⟩, none, farSingle⟩ := List.forall₂_cons_left_iff.mp farClasses
  cases none
  refine ⟨catalog, near, far, run, ?_, names.trans (by decide), ?_, farApart.mpr (by decide)⟩
  · rw [outlines, only]
    simp [single, farSingle]
  · exact fun distinct => absurd (apart.mp distinct) (by decide)

/-- Two methods that differ in the case of their first letter, and methods called like the fixed
members. -/
def shelfFiles : List FileDescriptor :=
  let unary (name : String) : MethodDescriptor := ⟨name, "Note", "Note", false, false⟩
  [.plain "shelf.proto" "" [] [.plain "Note" [] []]
    [⟨"Shelf", [unary "Get", unary "get"]⟩, ⟨"Door", [unary "Constructor"]⟩,
      ⟨"Hall", [unary "hostname"]⟩]]

/-- In every class of the module two members share a name. -/
theorem class_members_overlap :
    (∃ schema, Schema.ofFiles shelfFiles = .ok schema) ∧
      (∀ file ∈ shelfFiles, ∀ service ∈ file.services, ∀ method ∈ service.methods,
        isIdentifier method.name = true) ∧
      ∃ catalog, Catalog.ofFiles shelfFiles = .ok catalog ∧ ∃ outline ∈ catalog.outlines,
        (outline.clientModule .v5 catalog).classes.map ClassDecl.memberNames =
          [["hostname", "pathPrefix", "constructor", "get", "get"],
            ["hostname", "pathPrefix", "constructor", "constructor"],
            ["hostname", "pathPrefix", "constructor", "hostname"]] ∧
        ∀ declaration ∈ (outline.clientModule .v5 catalog).classes,
          ¬ declaration.memberNames.Nodup := by
  refine ⟨⟨_, rfl⟩, by decide, _, rfl, _, List.mem_cons_self, ?_⟩
  decide

end FlowClients
