/-!
# Options on a command line

An option has a long name after two dashes and may have a letter after one dash.  Letters of
options without a value may be joined.  A value follows its option in the same argument, after an
equals sign or directly after the letter, or it is the next argument; then it must not start with a
dash, except for the dash alone.  Two dashes alone end the options.
-/

namespace GridCircuit.CommandLine

/-- Why arguments are not understood. -/
inductive UsageError where
  | unknownOption (option : String)
  | missingValue (option : String)
  | needlessValue (option : String)
  | invalidValue (option value : String)
  | repeatedOption (option : String)
  | missingOption (option : String)
  | conflictingOptions (first second : String)
  | surplusArgument (argument : String)
  | unknownCommand (name : String)
  | missingCommand
  deriving DecidableEq

/-- The wording of the reason. -/
def UsageError.message : UsageError → String
  | unknownOption option => s!"unknown option '{option}'"
  | missingValue option => s!"option '{option}' needs a value"
  | needlessValue option => s!"option '{option}' takes no value"
  | invalidValue option value => s!"invalid value '{value}' for option '{option}'"
  | repeatedOption option => s!"option '{option}' is given more than once"
  | missingOption option => s!"option '{option}' is missing"
  | conflictingOptions first second => s!"options '{first}' and '{second}' exclude each other"
  | surplusArgument argument => s!"unexpected argument '{argument}'"
  | unknownCommand name => s!"unknown command '{name}'"
  | missingCommand => "a command is missing"

/-- What an option is good for. -/
inductive OptionRole where
  /-- It is on when it is given. -/
  | switch
  /-- It may be given again and again. -/
  | counter
  /-- It takes a value. -/
  | setting
  /-- It asks for information instead of a run. -/
  | inquiry
  deriving DecidableEq

/-- An option that a command understands. -/
structure OptionSpec where
  name : String
  letter : Option Char
  role : OptionRole

/-- An option that was given, by its name, and its value. -/
structure Given where
  name : String
  value : Option String

/-- What some arguments ask for. -/
inductive Request (α : Type) where
  /-- A run. -/
  | run (value : α)
  /-- Information, by the name of the option. -/
  | inquire (name : String)

/-- The spelling of a long option. -/
def longForm (name : String) : String := "--" ++ name

/-- The text before the first equals sign, and the text after it. -/
def splitValue (argument : List Char) : List Char × Option String :=
  match argument.dropWhile (· ≠ '=') with
  | [] => (argument, none)
  | _ :: value => (argument.takeWhile (· ≠ '='), some (String.ofList value))

/-- What the letters after a dash say. -/
inductive Letters where
  /-- Options that are complete. -/
  | complete (given : List Given)
  /-- Options, of which the last one still needs its value. -/
  | pending (given : List Given) (option : OptionSpec)
  /-- A question for information. -/
  | inquiry (name : String)

/-- Puts an option in front of others. -/
def Letters.cons (option : Given) : Letters → Letters
  | complete given => complete (option :: given)
  | pending given last => pending (option :: given) last
  | inquiry name => inquiry name

/-- Reads the letters after a dash. -/
def readLetters (specs : List OptionSpec) : List Char → Except UsageError Letters
  | [] => .ok (.complete [])
  | letter :: rest =>
    match specs.find? fun spec => spec.letter = some letter with
    | none => .error (.unknownOption (String.ofList ['-', letter]))
    | some spec =>
      match spec.role with
      | .inquiry => .ok (.inquiry spec.name)
      | .setting =>
        match rest with
        | [] => .ok (.pending [] spec)
        | '=' :: value => .ok (.complete [⟨spec.name, some (String.ofList value)⟩])
        | value => .ok (.complete [⟨spec.name, some (String.ofList value)⟩])
      | _ => (readLetters specs rest).map (.cons ⟨spec.name, none⟩)

/-- Whether an argument looks like an option. -/
def looksLikeOption (argument : String) : Bool := argument.startsWith "-" && argument ≠ "-"

/-- What a list of arguments says: the options, and the first argument that is no option with those
that follow it. -/
structure Scan where
  given : List Given
  rest : List String

/-- Puts options in front of others. -/
def Scan.prepend (given : List Given) : Request Scan → Request Scan
  | .run scan => .run { scan with given := given ++ scan.given }
  | .inquire name => .inquire name

/-- Reads options up to the first argument that is none; `pending` is an option whose value comes
next.  After two dashes there must be no more arguments. -/
def scan (specs : List OptionSpec) (pending : Option OptionSpec) :
    List String → Except UsageError (Request Scan)
  | [] =>
    match pending with
    | some spec => .error (.missingValue (longForm spec.name))
    | none => .ok (.run ⟨[], []⟩)
  | argument :: rest =>
    match pending with
    | some spec =>
      if looksLikeOption argument then .error (.missingValue (longForm spec.name))
      else (scan specs none rest).map (Scan.prepend [⟨spec.name, some argument⟩])
    | none =>
      match argument.toList with
      | ['-', '-'] =>
        match rest with
        | [] => .ok (.run ⟨[], []⟩)
        | surplus :: _ => .error (.surplusArgument surplus)
      | '-' :: '-' :: long =>
        let (name, value) := splitValue long
        let name := String.ofList name
        match specs.find? fun spec => spec.name = name with
        | none => .error (.unknownOption (longForm name))
        | some spec =>
          match spec.role, value with
          | .setting, none => scan specs (some spec) rest
          | .setting, some value =>
            (scan specs none rest).map (Scan.prepend [⟨name, some value⟩])
          | _, some _ => .error (.needlessValue (longForm name))
          | .inquiry, none => .ok (.inquire name)
          | _, none => (scan specs none rest).map (Scan.prepend [⟨name, none⟩])
      | '-' :: letter :: letters =>
        match readLetters specs (letter :: letters) with
        | .error error => .error error
        | .ok (.inquiry name) => .ok (.inquire name)
        | .ok (.complete given) => (scan specs none rest).map (Scan.prepend given)
        | .ok (.pending given spec) => (scan specs (some spec) rest).map (Scan.prepend given)
      | _ => .ok (.run ⟨[], argument :: rest⟩)

namespace Scan

/-- Checks that only counters are given more than once. -/
def checkRepeats (specs : List OptionSpec) (scan : Scan) : Except UsageError Unit :=
  specs.forM fun spec =>
    if spec.role ≠ .counter ∧ 1 < scan.given.countP (fun given => given.name = spec.name) then
      .error (.repeatedOption (longForm spec.name))
    else .ok ()

/-- Whether an option is given. -/
def has (scan : Scan) (name : String) : Bool := scan.given.any fun given => given.name = name

/-- The value of an option. -/
def value? (scan : Scan) (name : String) : Option String :=
  (scan.given.find? fun given => given.name = name).bind Given.value

/-- The value of an option that must be given. -/
def required (scan : Scan) (name : String) : Except UsageError String :=
  match scan.value? name with
  | some value => .ok value
  | none => .error (.missingOption (longForm name))

/-- Checks that two options are not given together. -/
def checkConflict (scan : Scan) (first second : String) : Except UsageError Unit :=
  if scan.has first && scan.has second then
    .error (.conflictingOptions (longForm first) (longForm second))
  else .ok ()

end Scan

end GridCircuit.CommandLine
