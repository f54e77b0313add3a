import FlowClients.Version

/-!
Reading the arguments of the command line. Options may stand anywhere at their level, as long
options with their value behind an equals sign or in the next argument, or as short ones in
clusters; a value in the next argument is judged only when the next option or the end comes.
-/

namespace FlowClients.CommandLine

inductive Opt
  | verbose
  | help
  | version
  | descriptorSet
  | json
  | output
  | twirpVersion
deriving DecidableEq

namespace Opt

def long : Opt → String
  | verbose => "verbose"
  | help => "help"
  | version => "version"
  | descriptorSet => "descriptor-set"
  | json => "json"
  | output => "output"
  | twirpVersion => "twirp-version"

def short? : Opt → Option Char
  | verbose => some 'v'
  | help => some 'h'
  | version => some 'V'
  | descriptorSet => some 'd'
  | output => some 'o'
  | json | twirpVersion => none

/-- What the value of an option is called. -/
def valueName? : Opt → Option String
  | descriptorSet => some "DESCRIPTOR_SET"
  | output => some "OUTPUT"
  | twirpVersion => some "TWIRP_VERSION"
  | verbose | help | version | json => none

def takesValue (opt : Opt) : Bool := opt.valueName?.isSome

/-- The option as messages name it. -/
def display (opt : Opt) : String :=
  "--" ++ opt.long ++ (match opt.valueName? with
    | some name => " <" ++ name ++ ">"
    | none => "")

end Opt

/-- Where an option stands: before a subcommand or after one. -/
inductive Level
  | top
  | parse
  | generate
deriving DecidableEq

def Level.options : Level → List Opt
  | top => [.verbose, .help, .version]
  | parse => [.descriptorSet, .json, .verbose, .help]
  | generate => [.descriptorSet, .output, .twirpVersion, .verbose, .help]

inductive UsageError
  | unexpectedArgument (argument : String)
  | unrecognizedSubcommand (argument : String)
  | requiredMissing
  | valueMissing (opt : Opt)
  | valueUnneeded (opt : Opt) (value : String)
  | repeated (opt : Opt)
  | invalidValue (opt : Opt) (value cause : String)
deriving DecidableEq

def UsageError.message : UsageError → String
  | .unexpectedArgument argument => s!"error: unexpected argument '{argument}' found"
  | .unrecognizedSubcommand argument => s!"error: unrecognized subcommand '{argument}'"
  | .requiredMissing => "error: the following required arguments were not provided:"
  | .valueMissing opt => s!"error: a value is required for '{opt.display}' but none was supplied"
  | .valueUnneeded opt value =>
    s!"error: unexpected value '{value}' for '{opt.display}' found; no more were expected"
  | .repeated opt => s!"error: the argument '{opt.display}' cannot be used multiple times"
  | .invalidValue opt value cause => s!"error: invalid value '{value}' for '{opt.display}': {cause}"

/-- Why the arguments lead to no command. -/
inductive Stop
  | usage (error : UsageError)
  | help
  | version
deriving DecidableEq

/-- What has been read at one level. -/
structure Given where
  options : List (Opt × String)
  /-- An option that has not been judged yet, with its value if that has been read. -/
  pending : Option (Opt × Option String)
deriving DecidableEq

namespace Given

def empty : Given := ⟨[], none⟩

def value? (given : Given) (opt : Opt) : Option String :=
  (given.options.find? (·.1 == opt)).map (·.2)

def has (given : Given) (opt : Opt) : Bool := (given.value? opt).isSome

end Given

/-- Judge the value of an option. Paths may not be empty. -/
def checkValue (opt : Opt) (value : String) : Except Stop Unit :=
  match opt with
  | .descriptorSet | .output => if value = "" then .error (.usage (.valueMissing opt)) else .ok ()
  | .twirpVersion =>
    match Version.ofName value with
    | .ok _ => .ok ()
    | .error cause => .error (.usage (.invalidValue opt value ("Config error: " ++ cause.message)))
  | .verbose | .json | .help | .version => .ok ()

/-- Take an option with its value, which is empty for a flag. -/
def Given.add (given : Given) (opt : Opt) (value : String) : Except Stop Given := do
  if opt = .help then throw .help
  if opt = .version then throw .version
  if given.has opt then throw (.usage (.repeated opt))
  checkValue opt value
  return ⟨given.options ++ [(opt, value)], none⟩

/-- Judge what is pending. -/
def Given.settle (given : Given) : Except Stop Given :=
  match given.pending with
  | none => .ok given
  | some (opt, none) => .error (.usage (.valueMissing opt))
  | some (opt, some value) => Given.add ⟨given.options, none⟩ opt value

/-- Begin an option, with the value that is attached to it. -/
def Given.start (given : Given) (opt : Opt) (attached : Option String) : Except Stop Given := do
  match opt.takesValue, attached with
  | false, some value => throw (.usage (.valueUnneeded opt value))
  | false, none => (← given.settle).add opt ""
  | true, some value => (← given.settle).add opt value
  | true, none => return ⟨(← given.settle).options, some (opt, none)⟩

/-- Read the name and attached value of a long option. -/
def Given.long (given : Given) (level : Level) (text : List Char) : Except Stop Given :=
  let name := String.ofList (text.takeWhile (· != '='))
  let attached := match text.dropWhile (· != '=') with
    | [] => none
    | _ :: value => some (String.ofList value)
  match level.options.find? (·.long == name) with
  | some opt => given.start opt attached
  | none => .error (.usage (.unexpectedArgument ("--" ++ name)))

/-- Read a cluster of short options; what follows one that takes a value is its value. -/
def Given.cluster (given : Given) (level : Level) : List Char → Except Stop Given
  | [] => .ok given
  | c :: rest =>
    match level.options.find? (·.short? == some c) with
    | none => .error (.usage (.unexpectedArgument (String.ofList ['-', c])))
    | some opt =>
      if opt.takesValue then
        given.start opt (match rest with
          | [] => none
          | '=' :: value => some (String.ofList value)
          | value => some (String.ofList value))
      else do
        let given ← given.start opt none
        given.cluster level rest

inductive Subcommand
  | parse
  | generate
  | help
deriving DecidableEq

def subcommand? : String → Option Subcommand
  | "parse" => some .parse
  | "generate" => some .generate
  | "help" => some .help
  | _ => none

/-- An argument that is neither an option nor a value. Behind a double dash a subcommand is none. -/
def strayArgument (level : Level) (afterDashes : Bool) (argument : String) : UsageError :=
  if level = .top && !(afterDashes && (subcommand? argument).isSome) then
    .unrecognizedSubcommand argument
  else .unexpectedArgument argument

/-- Read the arguments of one level, up to a subcommand or the end. -/
def readLevel (level : Level) (given : Given) :
    List String → Except Stop (Given × Option (Subcommand × List String))
  | [] => return (← given.settle, none)
  | argument :: rest =>
    match if level = .top then subcommand? argument else none with
    | some subcommand => .ok (given, some (subcommand, rest))
    | none =>
      match argument.toList with
      | ['-', '-'] =>
        match rest with
        | [] => return (← given.settle, none)
        | stray :: _ => .error (.usage (strayArgument level true stray))
      | '-' :: '-' :: text => do
        let given ← given.long level text
        readLevel level given rest
      | '-' :: c :: text => do
        let given ← given.cluster level (c :: text)
        readLevel level given rest
      | _ =>
        match given.pending with
        | some (opt, none) => readLevel level ⟨given.options, some (opt, some argument)⟩ rest
        | _ => .error (.usage (strayArgument level false argument))

/-- A fully read command line. -/
inductive Command
  | answerRequest
  | parse (descriptorSet : String) (json verbose : Bool)
  | generate (descriptorSet directory : String) (version : Version)
deriving DecidableEq

def defaultOutput : String := "./output"

/-- Read the arguments of a subcommand and demand the set of schema files. -/
def readSubcommand (level : Level) (arguments : List String) : Except Stop (Given × String) := do
  let (given, _) ← readLevel level .empty arguments
  match given.value? .descriptorSet with
  | some path => return (given, path)
  | none => throw (.usage .requiredMissing)

/-- What help is asked for: of the program, or of one of its subcommands, which have none of their
own. -/
def helpOn : List String → Stop
  | [] => .help
  | name :: rest =>
    match (subcommand? name), rest with
    | none, _ => .usage (.unrecognizedSubcommand name)
    | some _, [] => .help
    | some _, inner :: _ => .usage (.unrecognizedSubcommand inner)

def Command.ofArguments (arguments : List String) : Except Stop Command := do
  let (top, subcommand) ← readLevel .top .empty arguments
  match subcommand with
  | none => return .answerRequest
  | some (.help, rest) => throw (helpOn rest)
  | some (.parse, rest) =>
    let (given, path) ← readSubcommand .parse rest
    return .parse path (given.has .json) (top.has .verbose || given.has .verbose)
  | some (.generate, rest) =>
    let (given, path) ← readSubcommand .generate rest
    let version := match given.value? .twirpVersion with
      | some name => (Version.ofName name).toOption.getD .v5
      | none => .v5
    return .generate path ((given.value? .output).getD defaultOutput) version

end FlowClients.CommandLine
