import Scripting.Number.Bounded

namespace Scripting
namespace CommandLine

/-!
Options of the command line.

A script is named without a dash before it, or its text is given with an option.
Options that take a value take it from the next argument, or after an equals sign.
Two settings may come from the environment instead.
-/

/-- What the command line asks for. -/
structure Options where
  /-- The script to run. -/
  file : Option String := none
  /-- The text to run instead of a script. -/
  command : Option String := none
  /-- Print the tree of the program instead of running it. -/
  dumpTree : Bool := false
  libraryDirectory : Option String := none
  maxDepth : Option Nat := none
  deriving DecidableEq, Repr

/-- What is wrong with a command line. -/
inductive UsageError where
  | unknownOption (argument : String)
  | missingValue (option : String)
  | unwantedValue (option : String)
  | givenTwice (option : String)
  | notANumber (option value : String)
  | emptyValue (option : String)
  | scriptAndCommand
  deriving DecidableEq, Repr

def UsageError.message : UsageError → String
  | .unknownOption argument => s!"unexpected argument '{argument}' found"
  | .missingValue option => s!"a value is required for '{option}' but none was supplied"
  | .unwantedValue option => s!"unexpected value for '{option}' found"
  | .givenTwice option => s!"the argument '{option}' cannot be used multiple times"
  | .notANumber option value => s!"invalid value '{value}' for '{option}'"
  | .emptyValue option => s!"a value is required for '{option}' but none was supplied"
  | .scriptAndCommand => "a script cannot be used with '--command'"

/-- What is to be done. -/
inductive Request where
  | perform (options : Options)
  | showVersion
  | showHelp
  deriving DecidableEq, Repr

/-- Options that take a value. -/
inductive Field where
  | command
  | libraryDirectory
  | maxDepth
  deriving DecidableEq, Repr

def Field.spelling : Field → String
  | .command => "--command"
  | .libraryDirectory => "--lib-dir"
  | .maxDepth => "--max-depth"

/-- The largest limit on active calls, one less than two to the power of sixty-four. -/
def largestDepth : Nat := 18446744073709551615

/-- A limit on active calls: digits, perhaps after a plus sign. -/
def readDepth? (text : String) : Option Nat :=
  let digits := match text.toList with
    | '+' :: rest => rest
    | all => all
  if digits.isEmpty || !digits.all (Number.isDigitOf 10) then none
  else
    let value := Number.textValue 10 digits
    if value ≤ largestDepth then some value else none

/-- Read the value of an option as a limit on active calls. -/
def depthOf (option text : String) : Except UsageError Nat :=
  match readDepth? text with
  | some depth => .ok depth
  | none => .error (.notANumber option text)

/-- Set an option that must not have been set before. -/
def once {α : Type} (option : String) (old : Option α) (value : α) :
    Except UsageError (Option α) :=
  if old.isSome then .error (.givenTwice option) else .ok (some value)

/-- A path, which is never empty. -/
def pathOf (option text : String) : Except UsageError String :=
  if text.isEmpty then .error (.emptyValue option) else .ok text

namespace Options

/-- Give an option its value. -/
def set (options : Options) (field : Field) (value : String) : Except UsageError Options := do
  match field with
  | .command =>
      return { options with command := ← once field.spelling options.command value }
  | .libraryDirectory =>
      let path ← pathOf field.spelling value
      return { options with
        libraryDirectory := ← once field.spelling options.libraryDirectory path }
  | .maxDepth =>
      let depth ← depthOf field.spelling value
      return { options with maxDepth := ← once field.spelling options.maxDepth depth }

/-- Name the script. -/
def setFile (options : Options) (path : String) : Except UsageError Options := do
  if options.file.isSome then .error (.unknownOption path)
  else return { options with file := some (← pathOf "script" path) }

end Options

/-- What an argument is, read by itself. -/
inductive Argument where
  | script (path : String)
  /-- The arguments after it are scripts, whatever they look like. -/
  | separator
  | dumpTree
  | verbose
  | version
  | help
  /-- An option whose value stands in the next argument, or after it in this one. -/
  | field (field : Field) (value : Option String)
  | unknown

/--
Options with one dash are single letters, and several may share the dash.  The
first letter that asks for more than verbosity decides; a value may follow it at
once.
-/
def readShort : List Char → Argument
  | [] => .verbose
  | 'v' :: rest => readShort rest
  | 'h' :: _ => .help
  | 'V' :: _ => .version
  | ['c'] => .field .command none
  | 'c' :: '=' :: value => .field .command (some (String.ofList value))
  | 'c' :: value => .field .command (some (String.ofList value))
  | _ => .unknown

/-- Options with two dashes are words; a value may follow after an equals sign. -/
def readLong (text : List Char) : Argument :=
  let name := String.ofList (text.takeWhile (· ≠ '='))
  let value := match text.dropWhile (· ≠ '=') with
    | [] => none
    | _ :: rest => some (String.ofList rest)
  match name, value with
  | "help", none => .help
  | "version", none => .version
  | "dump-ast", none => .dumpTree
  | "verbose", none => .verbose
  | "command", value => .field .command value
  | "lib-dir", value => .field .libraryDirectory value
  | "max-depth", value => .field .maxDepth value
  | _, _ => .unknown

/-- Read one argument. -/
def readArgument (text : String) : Argument :=
  match text.toList with
  | ['-', '-'] => .separator
  | '-' :: '-' :: rest => readLong rest
  | ['-'] => .script text
  | '-' :: rest => readShort rest
  | _ => .script text

/-- Whether an argument can be the value of the option before it. -/
def isValue (text : String) : Bool :=
  match text.toList with
  | ['-'] => true
  | '-' :: _ => false
  | _ => true

/-- Read arguments that can only be scripts. -/
def readScripts (options : Options) : List String → Except UsageError Request
  | [] => .ok (.perform options)
  | path :: rest => do readScripts (← options.setFile path) rest

/-- Read the arguments one after another. -/
def readArguments (options : Options) : List String → Except UsageError Request
  | [] => .ok (.perform options)
  | text :: rest =>
      match readArgument text with
      | .script path => do readArguments (← options.setFile path) rest
      | .separator => readScripts options rest
      | .dumpTree =>
          if options.dumpTree then .error (.givenTwice text)
          else readArguments { options with dumpTree := true } rest
      | .verbose => readArguments options rest
      | .version => .ok .showVersion
      | .help => .ok .showHelp
      | .field field (some value) => do readArguments (← options.set field value) rest
      | .field field none =>
          match rest with
          | value :: rest =>
              if isValue value then do readArguments (← options.set field value) rest
              else .error (.missingValue field.spelling)
          | [] => .error (.missingValue field.spelling)
      | .unknown => .error (.unknownOption text)

/-- The settings that the environment may hold. -/
structure Environment where
  libraryDirectory : Option String := none
  maxDepth : Option String := none

/-- Fill in from the environment what the arguments leave open. -/
def Options.complete (options : Options) (environment : Environment) :
    Except UsageError Options := do
  let libraryDirectory ←
    match options.libraryDirectory, environment.libraryDirectory with
    | none, some path => (pathOf Field.libraryDirectory.spelling path).map some
    | chosen, _ => .ok chosen
  let maxDepth ←
    match options.maxDepth, environment.maxDepth with
    | none, some text => (depthOf Field.maxDepth.spelling text).map some
    | chosen, _ => .ok chosen
  if options.file.isSome && options.command.isSome then .error .scriptAndCommand
  else return { options with libraryDirectory := libraryDirectory, maxDepth := maxDepth }

/-- What the arguments and the environment ask for. -/
def readCommandLine (arguments : List String) (environment : Environment) :
    Except UsageError Request := do
  match ← readArguments {} arguments with
  | .perform options => return .perform (← options.complete environment)
  | request => return request

end CommandLine
end Scripting
