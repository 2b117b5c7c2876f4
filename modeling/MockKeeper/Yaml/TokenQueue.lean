import MockKeeper.Yaml.Block
import MockKeeper.Yaml.Plain
import MockKeeper.Yaml.Tag

/-! Tokens as they are needed. A scalar turns out to be a key only when the colon after
it is read, so tokens wait in a queue while one of them may still become a key. -/

namespace MockKeeper.Yaml

/-- A token that may still become a key: it has to be followed by a colon in its own
line, within 1024 characters. -/
structure PossibleKey where
  /-- Whether the text is at fault if no colon follows. -/
  required : Bool
  number : Nat
  mark : Mark
deriving DecidableEq, Repr

structure TokenQueue where
  cursor : Cursor
  started : Bool := false
  waiting : List Token := []
  taken : Nat := 0
  /-- The column of the block being read, and those of the blocks around it. -/
  indent : Int := -1
  outerIndents : List Int := []
  keyAllowed : Bool := false
  /-- What may still become a key, here and in the brackets around. -/
  key : Option PossibleKey := none
  outerKeys : List (Option PossibleKey) := []

namespace TokenQueue

def ofText (text : List Char) : TokenQueue := { cursor := { rest := text } }

def inFlow (queue : TokenQueue) : Bool := !queue.outerKeys.isEmpty

def isAhead (queue : TokenQueue) (token : Token) : TokenQueue :=
  { queue with waiting := queue.waiting ++ [token] }

def pushIndicator (queue : TokenQueue) (kind : TokenKind) (length : Nat) : TokenQueue :=
  let after := queue.cursor.skipMany length
  { queue with cursor := after, waiting := queue.waiting ++ [⟨kind, queue.cursor.mark, after.mark⟩] }

def pushRead (queue : TokenQueue) (read : Token × Cursor) : TokenQueue :=
  { queue with cursor := read.2, waiting := queue.waiting ++ [read.1] }

/-- Adds a token before those that wait from a given number on. -/
def insertAt (queue : TokenQueue) (number : Nat) (token : Token) : TokenQueue :=
  let (front, back) := queue.waiting.splitAt (number - queue.taken)
  { queue with waiting := front ++ token :: back }

def missingColon {α : Type} (queue : TokenQueue) (key : PossibleKey) : Except Fault α :=
  queue.cursor.fault "while scanning a simple key" key.mark "could not find expected ':'"

def isStale (queue : TokenQueue) (key : PossibleKey) : Bool :=
  key.mark.line < queue.cursor.mark.line || key.mark.index + 1024 < queue.cursor.mark.index

def dropStaleKeys (queue : TokenQueue) : Except Fault TokenQueue :=
  let fresh (key : Option PossibleKey) := key.filter fun k => !queue.isStale k
  match (queue.key :: queue.outerKeys).find? fun key => key.any fun k => k.required && queue.isStale k with
  | some (some key) => queue.missingColon key
  | _ => .ok { queue with key := fresh queue.key, outerKeys := queue.outerKeys.map fresh }

def dropKey (queue : TokenQueue) : Except Fault TokenQueue :=
  match queue.key with
  | some key => if key.required then queue.missingColon key else .ok { queue with key := none }
  | none => .ok queue

/-- Notes that the next token may become a key. It must, where it stands in the column
of its block. -/
def noteKey (queue : TokenQueue) : Except Fault TokenQueue :=
  if queue.keyAllowed then do
    let queue ← queue.dropKey
    .ok { queue with
      key := some
        { required := !queue.inFlow && queue.indent == (queue.cursor.mark.column : Int)
          number := queue.taken + queue.waiting.length
          mark := queue.cursor.mark } }
  else .ok queue

/-- Opens a block in a column, if it is deeper than the one being read. The token goes
before the one of the given number, or to the end. -/
def openBlock (queue : TokenQueue) (kind : TokenKind) (mark : Mark) (number : Option Nat) : TokenQueue :=
  if !queue.inFlow && queue.indent < (mark.column : Int) then
    let deeper := { queue with outerIndents := queue.indent :: queue.outerIndents, indent := mark.column }
    let token : Token := ⟨kind, mark, mark⟩
    match number with
    | none => deeper.isAhead token
    | some number => deeper.insertAt number token
  else queue

def closeBlocks (queue : TokenQueue) (column : Int) : TokenQueue :=
  if queue.inFlow then queue
  else
    let mark := queue.cursor.mark
    let rec close : List Int → TokenQueue → TokenQueue
      | [], queue => queue
      | outer :: others, queue =>
        if column < queue.indent then
          close others { queue.isAhead ⟨.blockEnd, mark, mark⟩ with indent := outer, outerIndents := others }
        else queue
    close queue.outerIndents queue

/-- Moves over spaces, comments and ends of lines to the next token. Outside brackets a
key may begin after the end of a line, and a tab may not stand where a key may. -/
def skipToToken : Nat → TokenQueue → TokenQueue
  | 0, queue => queue
  | fuel + 1, queue =>
    let cursor := queue.cursor
    let cursor := if cursor.mark.index == 0 && cursor.startsWith '\uFEFF' then cursor.skip else cursor
    let tabs := queue.inFlow || !queue.keyAllowed
    let cursor := cursor.skipWhile fun c => c == ' ' || (tabs && c == '\t')
    let cursor := if cursor.startsWith '#' then cursor.skipLine else cursor
    if cursor.atBreak then
      skipToToken fuel
        { queue with cursor := cursor.skipBreak, keyAllowed := queue.keyAllowed || !queue.inFlow }
    else { queue with cursor }

/-- Ends the stream. What is left unfinished is found missing in a line of its own. -/
def readEnd (queue : TokenQueue) : Except Fault TokenQueue := do
  let mark := queue.cursor.mark
  let mark := if mark.column == 0 then mark else { mark with line := mark.line + 1, column := 0 }
  let queue := { queue with cursor := { queue.cursor with mark } }
  let queue ← (queue.closeBlocks (-1)).dropKey
  .ok ({ queue with keyAllowed := false }.pushIndicator .streamEnd 0)

def readBetweenDocuments (queue : TokenQueue) (read : TokenQueue → Except Fault TokenQueue) :
    Except Fault TokenQueue := do
  let queue ← (queue.closeBlocks (-1)).dropKey
  read { queue with keyAllowed := false }

def openFlow (queue : TokenQueue) (kind : TokenKind) : Except Fault TokenQueue := do
  let queue ← queue.noteKey
  .ok ({ queue with key := none, outerKeys := queue.key :: queue.outerKeys, keyAllowed := true }.pushIndicator
    kind 1)

def closeFlow (queue : TokenQueue) (kind : TokenKind) : Except Fault TokenQueue := do
  let queue ← queue.dropKey
  let (key, outerKeys) := match queue.outerKeys with
    | [] => (queue.key, [])
    | key :: others => (key, others)
  .ok ({ queue with key, outerKeys, keyAllowed := false }.pushIndicator kind 1)

def readFlowEntry (queue : TokenQueue) : Except Fault TokenQueue := do
  let queue ← queue.dropKey
  .ok ({ queue with keyAllowed := true }.pushIndicator .flowEntry 1)

/-- Outside brackets, an indicator opens a block where none is open in its column, and
may stand only where a key may. -/
def openBlockHere (queue : TokenQueue) (kind : TokenKind) (what : String) : Except Fault TokenQueue :=
  if queue.inFlow then .ok queue
  else if queue.keyAllowed then .ok (queue.openBlock kind queue.cursor.mark none)
  else queue.cursor.bareFault (what ++ " are not allowed in this context")

def readBlockEntry (queue : TokenQueue) : Except Fault TokenQueue := do
  let queue ← queue.openBlockHere .blockSequenceStart "block sequence entries"
  let queue ← queue.dropKey
  .ok ({ queue with keyAllowed := true }.pushIndicator .blockEntry 1)

def readKey (queue : TokenQueue) : Except Fault TokenQueue := do
  let queue ← queue.openBlockHere .blockMappingStart "mapping keys"
  let queue ← queue.dropKey
  .ok ({ queue with keyAllowed := !queue.inFlow }.pushIndicator .key 1)

/-- A colon makes a key of the token noted for it. -/
def readValue (queue : TokenQueue) : Except Fault TokenQueue :=
  match queue.key with
  | some key =>
    let keyed := queue.insertAt key.number ⟨.key, key.mark, key.mark⟩
    let keyed := keyed.openBlock .blockMappingStart key.mark (some key.number)
    .ok ({ keyed with key := none, keyAllowed := false }.pushIndicator .value 1)
  | none => do
    let queue ← queue.openBlockHere .blockMappingStart "mapping values"
    .ok ({ queue with keyAllowed := !queue.inFlow }.pushIndicator .value 1)

def readKeyable (queue : TokenQueue) (read : Cursor → Except Fault (Token × Cursor)) :
    Except Fault TokenQueue := do
  let queue ← queue.noteKey
  .ok ({ queue with keyAllowed := false }.pushRead (← read queue.cursor))

def readBlockScalar (queue : TokenQueue) (literal : Bool) : Except Fault TokenQueue := do
  let queue ← queue.dropKey
  .ok ({ queue with keyAllowed := true }.pushRead (← Block.read literal queue.indent queue.cursor))

def readPlain (queue : TokenQueue) : Except Fault TokenQueue := do
  let queue ← queue.noteKey
  let (token, broken, after) ← Plain.read queue.inFlow (queue.indent + 1).toNat queue.cursor
  .ok ({ queue with keyAllowed := broken }.pushRead (token, after))

def atPlain (queue : TokenQueue) : Bool :=
  match queue.cursor.next? with
  | none => false
  | some c =>
    !(isSpaceOrTab c || isBreak c || "-?:,[]\x7b\x7d#&*!|>'\"%@`".contains c) ||
      (c == '-' && !queue.cursor.holdsAt 1 isSpaceOrTab) ||
      (!queue.inFlow && (c == '?' || c == ':') && !queue.cursor.gapAt 1)

def readToken (queue : TokenQueue) : Except Fault TokenQueue :=
  let cursor := queue.cursor
  match cursor.next? with
  | none => queue.readEnd
  | some c =>
    if c == '%' && cursor.mark.column == 0 then
      queue.readBetweenDocuments fun queue => do .ok (queue.pushRead (← Tag.readDirective queue.cursor))
    else if cursor.atDocumentLine then
      queue.readBetweenDocuments fun queue =>
        .ok (queue.pushIndicator (if c == '-' then .documentStart else .documentEnd) 3)
    else if c == '[' then queue.openFlow .flowSequenceStart
    else if c == '\x7b' then queue.openFlow .flowMappingStart
    else if c == ']' then queue.closeFlow .flowSequenceEnd
    else if c == '\x7d' then queue.closeFlow .flowMappingEnd
    else if c == ',' then queue.readFlowEntry
    else if c == '-' && cursor.gapAt 1 then queue.readBlockEntry
    else if c == '?' && (queue.inFlow || cursor.gapAt 1) then queue.readKey
    else if c == ':' && (queue.inFlow || cursor.gapAt 1) then queue.readValue
    else if c == '*' then queue.readKeyable (Tag.readAnchor true)
    else if c == '&' then queue.readKeyable (Tag.readAnchor false)
    else if c == '!' then queue.readKeyable (Tag.read queue.inFlow)
    else if c == '|' && !queue.inFlow then queue.readBlockScalar true
    else if c == '>' && !queue.inFlow then queue.readBlockScalar false
    else if c == '\'' then queue.readKeyable (Quoted.read true)
    else if c == '"' then queue.readKeyable (Quoted.read false)
    else if queue.atPlain then queue.readPlain
    else
      cursor.fault "while scanning for the next token" cursor.mark "found character that cannot start any token"

def readMore (queue : TokenQueue) : Except Fault TokenQueue :=
  if !queue.started then
    .ok { queue.pushIndicator .streamStart 0 with started := true, keyAllowed := true }
  else do
    let queue := skipToToken (queue.cursor.rest.length + 1) queue
    let queue ← queue.dropStaleKeys
    (queue.closeBlocks queue.cursor.mark.column).readToken

def firstMayBeKey (queue : TokenQueue) : Bool :=
  (queue.key :: queue.outerKeys).any fun key => key.any fun k => k.number == queue.taken

def prepareWithin : Nat → TokenQueue → Except Fault TokenQueue
  | 0, queue => .ok queue
  | fuel + 1, queue =>
    if queue.waiting.isEmpty then do prepareWithin fuel (← queue.readMore)
    else do
      let queue ← queue.dropStaleKeys
      if queue.firstMayBeKey then prepareWithin fuel (← queue.readMore) else .ok queue

def peek (queue : TokenQueue) : Except Fault (Token × TokenQueue) := do
  let queue ← prepareWithin (queue.cursor.rest.length + 3) queue
  match queue.waiting with
  | token :: _ => .ok (token, queue)
  | [] => .ok (⟨.streamEnd, queue.cursor.mark, queue.cursor.mark⟩, queue)

def drop (queue : TokenQueue) : TokenQueue :=
  { queue with waiting := queue.waiting.tail, taken := queue.taken + 1 }

end TokenQueue

end MockKeeper.Yaml
