/-!
# Command-line arguments

Reading the arguments of a command that takes options, flags and positional values. An option's
value is attached to it (`--name=value`, `-nvalue`, `-n=value`) or is the next argument, which must
not look like an option. A positional value and the value of an option are recorded only when the
next option, positional value or the end is reached, so an unknown option is reported before a
missing or refused value that stands right in front of it.
-/

set_option autoImplicit false

namespace Symtab

/-- Why arguments do not say what to do. -/
inductive UsageError where
  | unknownArgument
  | missingRequiredArgument
  /-- The value of an option is missing, or a value is refused. -/
  | invalidValue
  /-- Two arguments exclude each other, or one is given twice. -/
  | argumentConflict
  /-- A flag has a value. -/
  | tooManyValues
  | invalidSubcommand
  | missingSubcommand
  /-- There are no arguments, so the help is shown. -/
  | noArguments
  | helpRequested
  | versionRequested
  deriving DecidableEq, Repr

/-- The exit code of a run that ends with the usage. -/
def UsageError.exitCode : UsageError → Nat
  | .helpRequested | .versionRequested => 0
  | _ => 2

namespace Arguments

/-- What an option does. -/
inductive Action where
  /-- It takes a value and is given at most once. -/
  | value
  /-- It takes a value and can be repeated. -/
  | values
  /-- It takes no value and is given at most once. -/
  | flag
  /-- It takes no value and is counted. -/
  | count
  | help
  | version
  deriving DecidableEq, Repr

/-- An option or a positional value. -/
structure Parameter where
  name : String
  short : Option Char := none
  action : Action := .value
  /-- Whether an empty value is refused. -/
  refusesEmpty : Bool := false
  deriving DecidableEq, Repr

/-- Whether an option takes a value. -/
def Parameter.takesValue (parameter : Parameter) : Bool :=
  parameter.action == .value || parameter.action == .values

/-- Whether a parameter is given at most once. -/
def Parameter.isSingle (parameter : Parameter) : Bool :=
  parameter.action == .value || parameter.action == .flag

/-- What a command takes. -/
structure Signature where
  options : List Parameter
  positionals : List Parameter := []
  /-- The words that name a command inside this one. -/
  subcommands : List String := []

/-- The option with a long name. -/
def Signature.long? (signature : Signature) (name : String) : Option Parameter :=
  signature.options.find? fun option => option.name == name

/-- The option with a one-letter name. -/
def Signature.short? (signature : Signature) (letter : Char) : Option Parameter :=
  signature.options.find? fun option => option.short == some letter

/-- A parameter whose value is not recorded yet, or not even given. -/
structure Pending where
  parameter : Parameter
  value : Option String

/-- What has been read. -/
structure Reading where
  /-- The parameters given, last first, with their values; a flag has none. -/
  given : List (String × Option String) := []
  pending : Option Pending := none
  /-- The positional values that can still be given. -/
  positionals : List Parameter

namespace Reading

/-- Whether a parameter has been given. -/
def has (reading : Reading) (name : String) : Bool :=
  reading.given.any fun entry => entry.1 == name

/-- The values of a parameter, in order. -/
def values (reading : Reading) (name : String) : List String :=
  (reading.given.filterMap fun entry => if entry.1 == name then entry.2 else none).reverse

/-- The value of a parameter that is given at most once. -/
def value? (reading : Reading) (name : String) : Option String :=
  (reading.values name).head?

/-- How often a parameter has been given. -/
def count (reading : Reading) (name : String) : Nat :=
  (reading.given.filter fun entry => entry.1 == name).length

/-- Whether the next argument is the value of an option. -/
def awaitsValue (reading : Reading) : Bool :=
  reading.pending.any fun pending => pending.value.isNone

/-- Records a parameter. -/
def record (reading : Reading) (parameter : Parameter) (value : Option String) :
    Except UsageError Reading :=
  if parameter.isSingle && reading.has parameter.name then .error .argumentConflict
  else if parameter.refusesEmpty && value == some "" then .error .invalidValue
  else .ok { reading with given := (parameter.name, value) :: reading.given }

/-- Records the pending parameter, which needs its value. -/
def settle (reading : Reading) : Except UsageError Reading :=
  match reading.pending with
  | none => .ok reading
  | some ⟨_, none⟩ => .error .invalidValue
  | some ⟨parameter, some value⟩ => { reading with pending := none }.record parameter (some value)

/-- Reads an option that takes a value, attached or not. -/
def takeOption (reading : Reading) (parameter : Parameter) (attached : Option String) :
    Except UsageError Reading := do
  let settled ← reading.settle
  match attached with
  | some value => settled.record parameter (some value)
  | none => return { settled with pending := some ⟨parameter, none⟩ }

/-- Reads an option that takes no value. -/
def takeFlag (reading : Reading) (parameter : Parameter) : Except UsageError Reading := do
  let settled ← reading.settle
  match parameter.action with
  | .help => throw .helpRequested
  | .version => throw .versionRequested
  | _ => settled.record parameter none

/-- Reads an argument with a long name, after its dashes. -/
def takeLong (signature : Signature) (reading : Reading) (text : List Char) :
    Except UsageError Reading :=
  let (name, after) := text.span (· != '=')
  let attached := if after.isEmpty then none else some (String.ofList after.tail)
  match signature.long? (String.ofList name) with
  | none => .error .unknownArgument
  | some parameter =>
    if parameter.takesValue then reading.takeOption parameter attached
    else if attached.isSome then .error .tooManyValues
    else reading.takeFlag parameter

/-- The value attached to a one-letter name: the rest of the argument, without an equals sign at its
start. -/
def attachedValue : List Char → Option String
  | [] => none
  | '=' :: value => some (String.ofList value)
  | value => some (String.ofList value)

/-- Reads an argument with one-letter names, after its dash. -/
def takeShorts (signature : Signature) (reading : Reading) : List Char → Except UsageError Reading
  | [] => .ok reading
  | letter :: rest =>
    match signature.short? letter with
    | none => .error .unknownArgument
    | some parameter =>
      if parameter.takesValue then
        reading.takeOption parameter (attachedValue rest)
      else
        match reading.takeFlag parameter with
        | .error error => .error error
        | .ok reading => takeShorts signature reading rest

/-- What an argument is that no positional value is left for. -/
def surplus (signature : Signature) (afterDashes : Bool) (argument : String) : UsageError :=
  if signature.subcommands.isEmpty || (afterDashes && signature.subcommands.contains argument) then
    .unknownArgument
  else
    .invalidSubcommand

/-- Reads a positional value. -/
def takePositional (signature : Signature) (afterDashes : Bool) (reading : Reading)
    (argument : String) :
    Except UsageError Reading :=
  match reading.positionals with
  | [] => .error (surplus signature afterDashes argument)
  | parameter :: rest => do
    let settled ← reading.settle
    return { settled with pending := some ⟨parameter, some argument⟩, positionals := rest }

/-- Reads an argument that is no option: the value of an option, or a positional value. -/
def takeValue (signature : Signature) (reading : Reading) (argument : String) :
    Except UsageError Reading :=
  match reading.pending with
  | some ⟨parameter, none⟩ => .ok { reading with pending := some ⟨parameter, some argument⟩ }
  | _ => reading.takePositional signature false argument

/-- Reads an argument before two dashes. -/
def take (signature : Signature) (reading : Reading) (argument : String) :
    Except UsageError Reading :=
  match argument.toList with
  | '-' :: '-' :: name => reading.takeLong signature name
  | '-' :: letter :: letters => reading.takeShorts signature (letter :: letters)
  | _ => reading.takeValue signature argument

end Reading

/-- A command inside another one, with its arguments. -/
structure Subcommand where
  name : String
  arguments : List String

/-- Reads the arguments of a command up to the end, or up to the name of a command inside it. -/
def read (signature : Signature) (reading : Reading) :
    List String → Except UsageError (Reading × Option Subcommand)
  | [] => do return (← reading.settle, none)
  | argument :: rest => do
    if !reading.awaitsValue && signature.subcommands.contains argument then
      return (reading, some ⟨argument, rest⟩)
    else if argument = "--" then
      let final ← rest.foldlM
        (fun reading argument => reading.takePositional signature true argument) reading
      return (← final.settle, none)
    else
      read signature (← reading.take signature argument) rest

/-- Reads the arguments of a command. -/
def Signature.read (signature : Signature) (arguments : List String) :
    Except UsageError (Reading × Option Subcommand) :=
  Arguments.read signature { positionals := signature.positionals } arguments

end Arguments

end Symtab
