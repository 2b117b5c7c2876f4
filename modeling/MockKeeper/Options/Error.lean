/-! Why a command line is not carried out: it asks for help, or something is wrong. -/

namespace MockKeeper.Options

/-- Why a command line is not carried out. Options are kept as messages show them. -/
inductive OptionError
  | help
  | version
  | nothingGiven
  | missingCommand
  | unknownCommand (name : String)
  | unknownArgument (argument : String)
  | missingValue (option : String)
  | unexpectedValue (value option : String)
  | repeated (option : String)
  | invalidChoice (value option : String)
  | invalidValue (value option reason : String)
  | missingRequired
deriving DecidableEq, Repr

namespace OptionError

def message? : OptionError → Option String
  | .help | .version | .nothingGiven => none
  | .missingCommand => some "'mocksync' requires a subcommand but one was not provided"
  | .unknownCommand name => some s!"unrecognized subcommand '{name}'"
  | .unknownArgument argument => some s!"unexpected argument '{argument}' found"
  | .missingValue option => some s!"a value is required for '{option}' but none was supplied"
  | .unexpectedValue value option =>
    some s!"unexpected value '{value}' for '{option}' found; no more were expected"
  | .repeated option => some s!"the argument '{option}' cannot be used multiple times"
  | .invalidChoice value option => some s!"invalid value '{value}' for '{option}'"
  | .invalidValue value option reason => some s!"invalid value '{value}' for '{option}': {reason}"
  | .missingRequired => some "the following required arguments were not provided:"

def firstLine (text : String) : String :=
  let chars := text.toList
  let line := chars.takeWhile (· != '\n')
  let cut := line.length < chars.length && line.getLast? == some '\r'
  String.ofList (if cut then line.dropLast else line)

def line? (error : OptionError) : Option String :=
  error.message?.map fun message => firstLine ("error: " ++ message)

def exitCode : OptionError → Nat
  | .help | .version => 0
  | _ => 2

end OptionError

end MockKeeper.Options
