import MockKeeper.Options.Error
import MockKeeper.Options.Spec
import MockKeeper.Text.Integer

/-! A command line taken apart. Arguments are read from left to right; an option keeps
waiting for its value, which is looked at when the next option or the end is reached. -/

namespace MockKeeper.Options

inductive Value
  | text (text : String)
  | number (number : Nat)
  | truth (truth : Bool)
deriving DecidableEq, Repr

def ValueKind.read (kind : ValueKind) (shown value : String) : Except OptionError Value :=
  match kind with
  | .text => .ok (.text value)
  | .path => if value.isEmpty then .error (.missingValue shown) else .ok (.text value)
  | .truth =>
    if value = "true" then .ok (.truth true)
    else if value = "false" then .ok (.truth false)
    else if value.isEmpty then .error (.missingValue shown)
    else .error (.invalidChoice value shown)
  | .port =>
    match Text.readInteger true 64 value with
    | .error fault => .error (.invalidValue value shown fault.message)
    | .ok n =>
      if 0 ≤ n ∧ n < 65536 then .ok (.number n.toNat)
      else .error (.invalidValue value shown s!"{n} is not in 0..=65535")
  | .count =>
    match Text.readInteger false 64 value with
    | .error fault => .error (.invalidValue value shown fault.message)
    | .ok n => .ok (.number n.toNat)

structure Target where
  key : Key
  kind : ValueKind
  shown : String
deriving DecidableEq, Repr

/-- What has been read of one layer of a command line: before the name of a command, or
after it. -/
structure Progress where
  options : List Spec
  /-- The value that stands without an option, until it is given. -/
  positional : Option Target
  tellsVersion : Bool := false
  given : List (Key × Value) := []
  /-- A target whose value has not been looked at, with the value if it has come. -/
  pending : Option (Target × Option String) := none
  /-- Whether two hyphens were met, after which nothing is an option. -/
  trailing : Bool := false

inductive Outcome
  | more (progress : Progress)
  | command (name : CommandName) (progress : Progress)
  | help

namespace Progress

def isWaiting (progress : Progress) : Bool :=
  match progress.pending with
  | some (_, none) => true
  | _ => false

def find? (progress : Progress) (key : Key) : Option Value := progress.given.lookup key

/-- Accepts a value. No option may be given twice. -/
def accept (progress : Progress) (target : Target) (value : Option String) : Except OptionError Progress :=
  match value with
  | none => .error (.missingValue target.shown)
  | some value =>
    if (progress.find? target.key).isSome then .error (.repeated target.shown)
    else do
      let value ← target.kind.read target.shown value
      .ok { progress with given := (target.key, value) :: progress.given }

def settle (progress : Progress) : Except OptionError Progress :=
  match progress.pending with
  | none => .ok progress
  | some (target, value) => { progress with pending := none }.accept target value

def raise (progress : Progress) (spec : Spec) : Except OptionError Progress := do
  let progress ← progress.settle
  if (progress.find? spec.key).isSome then .error (.repeated spec.shown)
  else .ok { progress with given := (spec.key, .truth true) :: progress.given }

/-- Meets an option that takes a value, which may be attached to it. -/
def meet (progress : Progress) (spec : Spec) (kind : ValueKind) (attached : Option String) :
    Except OptionError Progress := do
  let target : Target := ⟨spec.key, kind, spec.shown⟩
  let progress ← progress.settle
  match attached with
  | some value => progress.accept target (some value)
  | none => .ok { progress with pending := some (target, none) }

def telling? (progress : Progress) (long : String) : Option OptionError :=
  if long = "help" then some .help
  else if long = "version" ∧ progress.tellsVersion then some .version
  else none

def readLong (progress : Progress) (name : String) (attached : Option String) :
    Except OptionError Progress :=
  match progress.options.find? fun spec => spec.long == name, progress.telling? name with
  | some spec, _ =>
    match spec.action, attached with
    | .take kind, _ => progress.meet spec kind attached
    | .raise, none => progress.raise spec
    | .raise, some value => .error (.unexpectedValue value spec.shown)
  | none, some telling =>
    match attached with
    | some value => .error (.unexpectedValue value ("--" ++ name))
    | none => do
      let _ ← progress.settle
      .error telling
  | none, none => .error (.unknownArgument ("--" ++ name))

/-- Reads the letters of an argument that begins with one hyphen. What follows a letter
that takes a value is that value. -/
def readShort : Progress → List Char → Except OptionError Progress
  | progress, [] => .ok progress
  | progress, letter :: rest =>
    match progress.options.find? fun spec => spec.short == some letter with
    | some spec =>
      match spec.action with
      | .take kind =>
        let attached := match rest with
          | [] => none
          | '=' :: value => some (String.ofList value)
          | value => some (String.ofList value)
        progress.meet spec kind attached
      | .raise => do readShort (← progress.raise spec) rest
    | none =>
      let telling :=
        if letter = 'h' then progress.telling? "help"
        else if letter = 'V' then progress.telling? "version"
        else none
      match telling with
      | some telling => do
        let _ ← progress.settle
        .error telling
      | none => .error (.unknownArgument (String.ofList ['-', letter]))

def readPositional (progress : Progress) (argument : String) : Except OptionError Progress :=
  match progress.positional with
  | some target => do
    let progress ← progress.settle
    .ok { progress with pending := some (target, some argument), positional := none }
  | none => .error (.unknownArgument argument)

def readValue (progress : Progress) (argument : String) : Except OptionError Progress :=
  match progress.pending with
  | some (target, none) => .ok { progress with pending := some (target, some argument) }
  | _ => progress.readPositional argument

def splitValue (text : List Char) : String × Option String :=
  let name := text.takeWhile (· != '=')
  match text.drop name.length with
  | [] => (String.ofList name, none)
  | _ :: value => (String.ofList name, some (String.ofList value))

def read (progress : Progress) (argument : String) : Except OptionError Progress :=
  if progress.trailing then progress.readPositional argument
  else
    match argument.toList with
    | ['-', '-'] => .ok { progress with trailing := true }
    | '-' :: '-' :: rest =>
      let (name, attached) := splitValue rest
      progress.readLong name attached
    | '-' :: letter :: rest => progress.readShort (letter :: rest)
    | _ => progress.readValue argument

/-- Lets variables of the environment stand in for options that were not given. -/
def readVariables (environment : String → Option String) (progress : Progress) :
    Except OptionError Progress :=
  progress.options.foldlM
    (fun progress spec =>
      match spec.action, spec.standIn.bind environment with
      | .take kind, some value =>
        if (progress.find? spec.key).isSome then .ok progress
        else progress.accept ⟨spec.key, kind, spec.shown⟩ (some value)
      | _, _ => .ok progress)
    progress

end Progress

/-- How one layer of a command line ended: what was given in it, and what the
environment stood in for. -/
structure Layer where
  given : List (Key × Value)
  stoodIn : List (Key × Value)

def finish (environment : String → Option String) (progress : Progress) : Except OptionError Layer := do
  let progress ← progress.settle
  let all ← progress.readVariables environment
  .ok { given := progress.given
        stoodIn := all.given.filter fun entry => (progress.find? entry.1).isNone }

def CommandName.start (name : CommandName) : Progress :=
  { options := name.options
    positional := match name with
      | .up => some ⟨.configDir, .path, "[CONFIG_DIR]"⟩
      | .proxy => none }

/-- Reads what follows the name of a command. An upstream has to be given. -/
def readCommand (environment : String → Option String) (name : CommandName) (arguments : List String) :
    Except OptionError Layer := do
  let progress ← arguments.foldlM Progress.read name.start
  let layer ← finish environment progress
  if name = .proxy ∧ (layer.given ++ layer.stoodIn).lookup .upstream = none then .error .missingRequired
  else .ok layer

def readHelp (arguments : List String) : OptionError :=
  match arguments with
  | [] | ["help"] => .help
  | "help" :: other :: _ => .unknownCommand other
  | [name] => if (CommandName.ofText? name).isSome then .help else .unknownCommand name
  | name :: other :: _ => .unknownCommand (if (CommandName.ofText? name).isSome then other else name)

def notACommand (progress : Progress) (argument : String) : OptionError :=
  if progress.trailing && ((CommandName.ofText? argument).isSome || argument == "help") then
    .unknownArgument argument
  else .unknownCommand argument

/-- Reads a whole command line: the layer before the command's name, the command, and
the layer after it. What is wrong after the name is found first. -/
def readAll (environment : String → Option String) :
    Progress → List String → Except OptionError (CommandName × Layer × Layer)
  | progress, [] => do
    let layer ← finish environment progress
    .error (if layer.given.isEmpty && layer.stoodIn.isEmpty then .nothingGiven else .missingCommand)
  | progress, argument :: rest =>
    if progress.trailing then .error (notACommand progress argument)
    else if progress.isWaiting || argument.startsWith "-" then do
      match argument.toList with
      | ['-'] =>
        if progress.isWaiting then readAll environment (← progress.read argument) rest
        else .error (notACommand progress argument)
      | _ => readAll environment (← progress.read argument) rest
    else if argument = "help" then .error (readHelp rest)
    else
      match CommandName.ofText? argument with
      | none => .error (notACommand progress argument)
      | some name => do
        let inner ← readCommand environment name rest
        let outer ← finish environment progress
        .ok (name, outer, inner)

end MockKeeper.Options
