import SiteSnapshot.Text.Digit

/-!
# Reading options

A command line is read against a list of options. An option with a value takes it behind an
equals sign, directly behind its letter, or from the next argument; the values that stand
in the next argument are checked only when the next option starts or the line ends, and an
unknown argument is reported before them. Letters of options without a value can stand
together.
-/

namespace SiteSnapshot.Cli

/-- Why arguments are refused, or that help or the version is asked for. -/
inductive Usage where
  | displayHelp
  | displayVersion
  | displayHelpOnMissingArgument
  | missingRequiredArgument
  | missingSubcommand
  | unknownArgument
  | invalidSubcommand
  | invalidValue
  | valueValidation
  | argumentConflict
  | tooManyValues
deriving DecidableEq, Repr, Inhabited

namespace Usage

/-- The exit code: only what was asked for is no error. -/
def exitCode : Usage → Nat
  | .displayHelp | .displayVersion => 0
  | _ => 2

end Usage

/-- What an option does: it asks for something, is a switch, or takes a value. -/
inductive OptionKind where
  | help
  | version
  | switch
  | text
  | path
  | number
deriving DecidableEq, Repr, Inhabited

/-- An option by its name and, possibly, letter. -/
structure OptionSpec where
  name : String
  letter : Option Char := none
  kind : OptionKind
  repeatable : Bool := false
  required : Bool := false
deriving DecidableEq, Repr, Inhabited

namespace OptionSpec

/-- True for an option with a value. -/
def takesValue (o : OptionSpec) : Bool :=
  match o.kind with
  | .text | .path | .number => true
  | _ => false

end OptionSpec

/-- A natural number below 2^64: decimal digits, possibly behind a plus sign. -/
def parseNumber? (text : String) : Option Nat :=
  let digits :=
    match text.toList with
    | '+' :: rest => rest
    | all => all
  if digits.isEmpty then none else (Digit.number? 10 digits).filter (· < 0x10000000000000000)

/-- The options read so far, with their values, and the option that waits for its value or
has it unchecked. -/
structure Reading where
  settings : List (String × String) := []
  pending : Option (OptionSpec × Option String) := none
deriving DecidableEq, Repr, Inhabited

namespace Reading

/-- Sets an option to a value. Only a repeatable option can be set twice, and a path is not
empty. -/
def set (r : Reading) (o : OptionSpec) (value : String) : Except Usage Reading :=
  if !o.repeatable && r.settings.any (·.1 == o.name) then .error .argumentConflict
  else if o.kind = .path ∧ value.isEmpty then .error .invalidValue
  else if o.kind = .number ∧ parseNumber? value = none then .error .valueValidation
  else .ok { r with settings := r.settings ++ [(o.name, value)] }

/-- Checks the value of the pending option. -/
def settle (r : Reading) : Except Usage Reading :=
  match r.pending with
  | none => .ok r
  | some (_, none) => .error .invalidValue
  | some (o, some value) => set { r with pending := none } o value

/-- Acts on an option without a value. -/
def act (r : Reading) (o : OptionSpec) : Except Usage Reading := do
  let r ← r.settle
  match o.kind with
  | .help => throw .displayHelp
  | .version => throw .displayVersion
  | _ => r.set o ""

/-- Acts on an option that has its value with it. -/
def actWith (r : Reading) (o : OptionSpec) (value : String) : Except Usage Reading := do
  let r ← r.settle
  r.set o value

/-- Acts on an option whose value is the next argument. -/
def await (r : Reading) (o : OptionSpec) : Except Usage Reading := do
  let r ← r.settle
  return { r with pending := some (o, none) }

/-- Reads an argument that starts with two hyphens, given without them. -/
def readLong (options : List OptionSpec) (r : Reading) (arg : List Char) :
    Except Usage Reading :=
  let name := arg.takeWhile (· != '=')
  let value := (arg.drop name.length).tail?.map String.ofList
  match options.find? (·.name == String.ofList name) with
  | none => .error .unknownArgument
  | some o =>
    match o.takesValue, value with
    | true, none => r.await o
    | true, some value => r.actWith o value
    | false, none => r.act o
    | false, some _ => .error .tooManyValues

/-- Reads the letters behind one hyphen. -/
def readShort (options : List OptionSpec) (r : Reading) : List Char → Except Usage Reading
  | [] => .ok r
  | c :: rest =>
    match options.find? (·.letter == some c) with
    | none => .error .unknownArgument
    | some o =>
      if o.takesValue then
        match rest with
        | [] => r.await o
        | '=' :: value => r.actWith o (String.ofList value)
        | value => r.actWith o (String.ofList value)
      else
        match r.act o with
        | .ok r => readShort options r rest
        | .error e => .error e

/-- What an argument is. -/
inductive Shape where
  | escape
  | long (arg : List Char)
  | short (letters : List Char)
  | plain
deriving DecidableEq, Repr

/-- The shape of an argument. A single hyphen is plain. -/
def shape (arg : String) : Shape :=
  match arg.toList with
  | ['-', '-'] => .escape
  | '-' :: '-' :: rest => .long rest
  | ['-'] => .plain
  | '-' :: rest => .short rest
  | _ => .plain

/-- Reads arguments up to the first plain one that is no value, and answers with that one,
whether it is escaped, and the arguments behind it. -/
def readUntilPlain (options : List OptionSpec) (r : Reading) :
    List String → Except Usage (Reading × Option (String × Bool × List String))
  | [] => .ok (r, none)
  | arg :: rest =>
    match shape arg with
    | .escape =>
      match rest with
      | [] => .ok (r, none)
      | next :: rest => .ok (r, some (next, true, rest))
    | .long l =>
      match r.readLong options l with
      | .ok r => readUntilPlain options r rest
      | .error e => .error e
    | .short l =>
      match r.readShort options l with
      | .ok r => readUntilPlain options r rest
      | .error e => .error e
    | .plain =>
      match r.pending with
      | some (o, none) => readUntilPlain options { r with pending := some (o, some arg) } rest
      | _ => .ok (r, some (arg, false, rest))

/-- Checks the last value and that every required option is set. -/
def finish (options : List OptionSpec) (r : Reading) : Except Usage Reading := do
  let r ← r.settle
  if options.all fun o => !o.required || r.settings.any (·.1 == o.name) then return r
  else throw .missingRequiredArgument

/-- The values of an option, in order. -/
def values (r : Reading) (name : String) : List String :=
  (r.settings.filter (·.1 == name)).map (·.2)

/-- The value of an option. -/
def value? (r : Reading) (name : String) : Option String :=
  (r.values name).head?

/-- True for a switch that is set. -/
def isSet (r : Reading) (name : String) : Bool :=
  r.settings.any (·.1 == name)

end Reading

end SiteSnapshot.Cli
