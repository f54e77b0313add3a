import FlowClients.Proofs.Script.Fields

/-!
A message that is serialized and then deserialized is the message again. The induction is on the
message: what its members refer to has come back before.
-/

namespace FlowClients

open Script

variable {D : Type} {dates : Dates D}

namespace Script

/-- The values that types describe if every date has to be valid and no date may be missing. -/
def strictDates : DateRules := ⟨false, false⟩

/-- A converter and its inverse, at one value. -/
def Inverse (dates : Dates D) (models : List ModelDecl) (there back : Converter)
    (value : Value D) : Prop :=
  ∃ wire, wire.isPresent = true ∧ Returns dates models there value wire ∧
    Returns dates models back wire value

def ModelInverse (dates : Dates D) (models : List ModelDecl) (name : String)
    (value : Value D) : Prop :=
  Inverse dates models (.toWire name) (.fromWire name) value

end Script

/-- What holds of the messages that a value consists of, if nothing is said of those on the wire. -/
def FlowType.Inverts (dates : Dates D) (models : List ModelDecl) (type : FlowType)
    (value : Value D) : Prop :=
  type.Objects (ModelInverse dates models) (fun _ _ => True) value

namespace Script

variable {models : List Model} {declared : List ModelDecl} {value : Value D}

theorem inverse_of_typed {type : FlowType} {there back : Converter}
    (converts : type.ConvertedBy there back) (typed : HasType strictDates models type value)
    (inverts : type.Inverts dates declared value) : Inverse dates declared there back value := by
  cases converts with
  | date =>
    cases typed with
    | date point =>
      refine ⟨.text (dates.isoText point), rfl, .dateToText point, ?_⟩
      have constructed : Returns dates declared .textToDate (.text (dates.isoText point)) _ :=
        .textToDate (.text (dates.isoText point))
      rwa [dates.construct_isoText] at constructed
    | invalidDate allowed => cases allowed
  | model name => exact inverts

end Script

/-- A member in memory is serialized to a wire member, which is deserialized to it again. -/
structure Field.ComesBack (field : Field) (dates : Dates D) (declared : List ModelDecl)
    (value wire : Value D) : Prop where
  there : ∀ m : Value D, m.member field.name = .ok value →
    Evaluates dates declared m field.serialized wire
  back : ∀ m : Value D, m.member field.wireName = .ok wire →
    Evaluates dates declared m field.deserialized value

theorem Field.inverts {field : Field} {models : List Model} {declared : List ModelDecl}
    {value : Value D} (typed : HasType strictDates models field.memoryType value)
    (inverts : field.memoryType.Inverts dates declared value) :
    ∃ wire, field.ComesBack dates declared value wire := by
  rcases field.memory_cases typed inverts with
    ⟨items, repeated, rfl, each⟩ | ⟨single, message, rfl, allowed⟩ | ⟨single, typed, inverts⟩
  · rcases field.converted_or_scalar with
      ⟨there, back, converts, toWire, fromWire⟩ | ⟨_, _, _, toWire, fromWire⟩
    · obtain ⟨wires, pairs⟩ := exists_forall₂ fun item member =>
        inverse_of_typed converts (each item member).1 (each item member).2
      refine ⟨.array wires, fun m read => ?_, fun m read => ?_⟩
      · exact serialized_list toWire repeated read (pairs.imp fun _ _ pair => pair.2.1)
      · exact deserialized_list repeated fromWire read (pairs.flip.imp fun _ _ pair => pair.2.2)
    · exact ⟨.array items, fun m read => serialized_plain toWire read,
        fun m read => deserialized_plainList repeated fromWire read rfl⟩
  -- Null comes back from an absent wire member, except to a date, which is not null here.
  · have noDates : field.holdsDates = false :=
      Bool.eq_false_iff.mpr fun dated => absurd (allowed dated) (by decide)
    rcases field.converted_or_scalar with
      ⟨there, back, _, toWire, fromWire⟩ | ⟨_, _, noMessage, _⟩
    · exact ⟨.undefined, fun m read => serialized_absent toWire single read rfl,
        fun m read => deserialized_null single noDates fromWire read rfl⟩
    · rw [message] at noMessage
      cases noMessage
  · have valueHeld := typed.isPresent field.valueType_ne_nullable
    rcases field.converted_or_scalar with
      ⟨there, back, converts, toWire, fromWire⟩ | ⟨_, noDates, _, toWire, fromWire⟩
    · obtain ⟨wire, wireHeld, thereRun, backRun⟩ := inverse_of_typed converts typed inverts
      exact ⟨wire, fun m read => serialized_single toWire single read valueHeld thereRun,
        fun m read => deserialized_single single fromWire read wireHeld backRun⟩
    · exact ⟨value, fun m read => serialized_plain toWire read,
        fun m read => deserialized_plain single noDates fromWire read valueHeld⟩

/-- A message comes back if the messages in its members do. -/
theorem Model.inverts {models : List Model} (distinct : DistinctNames models) {model : Model}
    (known : model ∈ models) {get : String → Option (Value D)}
    (keys : ∀ key, (get key).isSome = true ↔ key ∈ model.fields.map (·.name))
    (each : ∀ field ∈ model.fields, ∀ value, get field.name = some value →
      HasType strictDates models field.memoryType value ∧
        field.memoryType.Inverts dates (models.map Model.declaration) value) :
    ModelInverse dates (models.map Model.declaration) model.name (.object get) := by
  -- The wire object is put together from wire members that the fields have one by one.
  have members : ∀ field ∈ model.fields, ∃ wire, ∃ value, get field.name = some value ∧
      field.ComesBack dates (models.map Model.declaration) value wire := by
    intro field member
    obtain ⟨value, found⟩ :=
      Option.isSome_iff_exists.mp ((keys field.name).mpr (List.mem_map_of_mem member))
    obtain ⟨typed, inverts⟩ := each field member value found
    obtain ⟨wire, comesBack⟩ := Field.inverts typed inverts
    exact ⟨wire, value, found, comesBack⟩
  obtain ⟨wireGet, wires, only⟩ :=
    exists_members Field.wireName _ (distinct.ofWireMembers model known) members
  refine ⟨.object wireGet, rfl, .serialized distinct known (fun field member => ?_) only,
    .deserialized distinct known (fun field member => ?_) fun key absent => ?_⟩
  · obtain ⟨wire, wireFound, value, found, comesBack⟩ := wires field member
    exact ⟨wire, wireFound, comesBack.there _ (by simp [Value.member, found])⟩
  · obtain ⟨wire, wireFound, value, found, comesBack⟩ := wires field member
    exact ⟨value, found, comesBack.back _ (by simp [Value.member, wireFound])⟩
  · rw [← Option.not_isSome_iff_eq_none, keys]
    exact absent

/-- The deserializer of a model undoes its serializer on every message of any depth, in which single
messages may be null and all dates are set and valid. -/
theorem deserialize_serialize {models : List Model} (distinct : DistinctNames models)
    {name : String} {value : Value D} (typed : HasType strictDates models (.model name) value) :
    ∃ wire, Returns dates (models.map Model.declaration) (.toWire name) value wire ∧
      Returns dates (models.map Model.declaration) (.fromWire name) wire value := by
  have inverts : FlowType.Inverts dates (models.map Model.declaration) (.model name) value :=
    typed.objects (fun _ known _ keys each => Model.inverts distinct known keys each)
      fun _ _ _ _ => trivial
  obtain ⟨wire, _, there, back⟩ := inverts
  exact ⟨wire, there, back⟩

/-- One point in time, as its text writes it. -/
def epochDates : Dates Unit where
  isoText _ := "1970-01-01T00:00:00.000Z"
  construct
    | .text "1970-01-01T00:00:00.000Z" | .null => some ()
    | _ => none
  construct_isoText _ := rfl

def eventModel : Model where
  file := "event.js"
  name := "Event"
  builtin := false
  fields := [⟨"next", "Event", "next", "EventJSON", true, false⟩,
    ⟨"startsAt", "Date", "starts_at", "string", true, false⟩,
    ⟨"tags", "Array<string>", "tags", "Array<string>", false, true⟩]

def event (next : Value Unit) : Value Unit :=
  .object fun
    | "next" => some next
    | "startsAt" => some (.date ())
    | "tags" => some (.array [.text "new"])
    | _ => none

theorem event_typed {next : Value Unit}
    (typed : HasType strictDates [eventModel] (.nullable (.model "Event")) next) :
    HasType strictDates [eventModel] (.model "Event") (event next) := by
  change HasType strictDates [eventModel] (.model eventModel.name) _
  refine .memory List.mem_cons_self (fun key => ?_) fun field member value found => ?_
  · split <;> simp_all [eventModel]
  · simp only [eventModel, List.mem_cons, List.not_mem_nil, or_false] at member
    rcases member with rfl | rfl | rfl <;> cases found
    · exact typed
    · exact .held (.date ())
    · exact .list fun item member => List.mem_singleton.mp member ▸ .text "new"

theorem deserialize_serialize_event :
    ∃ wire,
      Returns epochDates [eventModel.declaration] (.toWire "Event") (event (event .null)) wire ∧
      Returns epochDates [eventModel.declaration] (.fromWire "Event") wire (event (event .null)) := by
  have distinct : DistinctNames [eventModel] := ⟨by decide, by decide, by decide⟩
  have last : HasType strictDates [eventModel] (.nullable (.model "Event")) (.null (D := Unit)) :=
    .null fun other => (by cases other)
  exact deserialize_serialize distinct (event_typed (.held (event_typed last)))

example : (call epochDates [eventModel.declaration] 1 (.toWire "Event") (event .null) >>=
    fun wire => wire.member "starts_at") = .ok (.text "1970-01-01T00:00:00.000Z") := rfl

end FlowClients
