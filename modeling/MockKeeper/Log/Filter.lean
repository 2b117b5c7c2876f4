import MockKeeper.Log
import MockKeeper.Text.Blank

/-! Which lines of the log are shown. A filter is a list of rules with commas between them:
a level, or a part of the program with a level of its own. -/

namespace MockKeeper

structure FilterRule where
  /-- The part of the program that the rule is for, by how its name begins. -/
  target : Option String := none
  /-- The last level that is shown; without one nothing is. -/
  limit : Option Level
  /-- The rule is for spans of time, in which no line of this program is written. -/
  forSpans : Bool := false
deriving DecidableEq, Repr

inductive FilterFault
  | level
  | form
deriving DecidableEq, Repr

namespace FilterFault

def message : FilterFault → String
  | .level => "error parsing level filter: expected one of \"off\", \"error\", \"warn\", " ++
      "\"info\", \"debug\", \"trace\", or a number 0-5"
  | .form => "invalid filter directive"

end FilterFault

namespace FilterRule

def limits : List (String × Option Level) :=
  [("off", none), ("error", some .error), ("warn", some .warn), ("info", some .info),
    ("debug", some .debug), ("trace", some .trace)]

def limit? (word : String) : Option (Option Level) :=
  match word.toNat? with
  | some number => (limits[number]?).map Prod.snd
  | none => limits.lookup (Text.asciiLower word)

/-- The limit after an equals sign; nothing there stands for everything. -/
def limitAfter (word : String) : Except FilterFault (Option Level) :=
  if word.isEmpty then .ok (some .trace)
  else
    match limit? word with
    | some limit => .ok limit
    | none => .error .level

def canBegin (c : Char) : Bool := c.isAlphanum || 127 < c.toNat || c == '-' || c == ':' || c == '_'

def readScoped (text : List Char) : Except FilterFault FilterRule :=
  match text.dropWhile (· != ']') with
  | [']'] => .ok { limit := some .trace, forSpans := true }
  | ']' :: '=' :: word =>
    (limitAfter (String.ofList word)).map fun limit => { limit, forSpans := true }
  | _ => .error .form

/-- Reads a rule. Blanks are counted but not left out, so a name after a blank begins with it. -/
def read (text : String) : Except FilterFault FilterRule :=
  let given := text.toList
  let shown := (Text.trim text).toList
  match shown with
  | [] => .error .form
  | first :: _ =>
    if first == '[' then readScoped shown
    else if !canBegin first then .error .form
    else
      let name := shown.takeWhile fun c => c != '=' && c != '['
      match shown[name.length]? with
      | some '[' => readScoped (shown.drop name.length)
      | some _ =>
        (limitAfter (String.ofList (given.drop (name.length + 1)))).map fun limit =>
          { target := some (String.ofList (given.take name.length)), limit }
      | none =>
        match limit? text with
        | some limit => .ok { limit }
        | none => .ok { target := some text, limit := some .trace }

def covers (rule : FilterRule) (part : String) : Bool :=
  !rule.forSpans && (rule.target.all fun target => target.toList.isPrefixOf part.toList)

def detail (rule : FilterRule) : Nat :=
  match rule.target with
  | some target => target.utf8ByteSize + 1
  | none => 0

end FilterRule

structure LogFilter where
  rules : List FilterRule
deriving DecidableEq, Repr

namespace LogFilter

/-- A filter of some rules; without any, errors are shown. -/
def ofRules (rules : List FilterRule) : LogFilter :=
  ⟨if rules.isEmpty then [{ limit := some .error }] else rules⟩

def pieces (text : String) : List String :=
  (text.splitToList (· == ',')).filter fun piece => !piece.isEmpty

def read? (text : String) : Option LogFilter :=
  match (pieces text).mapM FilterRule.read with
  | .ok rules => some (ofRules rules)
  | .error _ => none

/-- Reads a filter without its bad rules, and what is said of those. -/
def readKnown (text : String) : LogFilter × List String :=
  let results := (pieces text).map fun piece => (piece, FilterRule.read piece)
  (ofRules (results.filterMap fun (_, result) => match result with
      | .ok rule => some rule
      | .error _ => none),
    results.filterMap fun (piece, result) => match result with
      | .ok _ => none
      | .error fault => some s!"ignoring `{piece}`: {fault.message}")

def program : String := "mocksync"

/-- The filter of a run: what the environment says, if it is good, or else the level for
the program and warnings of everything else. -/
def ofRun (environment : Option String) (level : String) : LogFilter × List String :=
  match environment.bind read? with
  | some filter => (filter, [])
  | none => readKnown (program ++ "=" ++ level ++ ",warn")

/-- The rule for a part of the program: the one that tells most of its name, and of two
such rules the later one. -/
def ruleFor? (filter : LogFilter) (part : String) : Option FilterRule :=
  (filter.rules.filter fun rule => rule.covers part).foldl (fun best rule =>
    match best with
    | some other => if other.detail ≤ rule.detail then some rule else best
    | none => some rule) none

def shows (filter : LogFilter) (level : Level) : Bool :=
  match (filter.ruleFor? program).bind FilterRule.limit with
  | some limit => level.rank ≤ limit.rank
  | none => false

def apply (filter : LogFilter) (log : Log) : Log := log.filter fun line => filter.shows line.level

end LogFilter

end MockKeeper
