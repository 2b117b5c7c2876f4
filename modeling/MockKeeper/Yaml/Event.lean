import MockKeeper.Yaml.TokenQueue

/-! The structure of a YAML text as a run of events: documents, collections and scalars
begin and end in the order of the text. What is left out of a text, such as the value
of a key, is an empty scalar. -/

namespace MockKeeper.Yaml

inductive Event
  | streamStart
  | streamEnd
  | documentStart
  | documentEnd
  | alias (name : String)
  | scalar (anchor : Option String) (tag : Option Bytes) (text : String) (style : ScalarStyle)
  | sequenceStart (anchor : Option String) (tag : Option Bytes)
  | sequenceEnd
  | mappingStart (anchor : Option String) (tag : Option Bytes)
  | mappingEnd
deriving DecidableEq, Repr

inductive Expectation
  | streamStart
  | firstDocument
  | laterDocument
  | documentContent
  | documentEnd
  | blockNode
  | blockEntry (first : Bool)
  | bareEntry
  | blockKey (first : Bool)
  | blockValue
  | flowEntry (first : Bool)
  | pairKey
  | pairValue
  | pairEnd
  | flowKey (first : Bool)
  | flowValue
  | emptyFlowValue
  | nothing
deriving DecidableEq, Repr

/-- The tags that stand for themselves until a directive says otherwise. -/
def standardTags : List (String × Bytes) :=
  [("!", Utf8.encode "!"), ("!!", Utf8.encode "tag:yaml.org,2002:")]

structure EventReader where
  queue : TokenQueue
  expected : Expectation := .streamStart
  /-- What is expected after the collections that are open now. -/
  later : List Expectation := []
  starts : List Mark := []
  tags : List (String × Bytes) := []

abbrev Reading := StateT EventReader (Except Fault)

namespace EventReader

def ofText (text : List Char) : EventReader := { queue := .ofText text }

def peek : Reading Token := do
  let reader ← get
  let (token, queue) ← reader.queue.peek
  set { reader with queue }
  return token

def drop : Reading Unit := modify fun reader => { reader with queue := reader.queue.drop }

def expect (expected : Expectation) : Reading Unit := modify fun reader => { reader with expected }

/-- Goes on with this after the node that comes next. -/
def expectLater (expected : Expectation) : Reading Unit :=
  modify fun reader => { reader with later := expected :: reader.later }

/-- Goes back to what was expected around a node that is now complete. -/
def expectOuter : Reading Unit :=
  modify fun reader =>
    match reader.later with
    | [] => { reader with expected := .nothing }
    | expected :: later => { reader with expected, later }

def enter (mark : Mark) : Reading Unit := modify fun reader => { reader with starts := mark :: reader.starts }

def leave : Reading Unit := modify fun reader => { reader with starts := reader.starts.tail }

def fault {α : Type} (fault : Fault) : Reading α := fun _ => .error fault

def faultIn {α : Type} (doing : String) (start : Mark) (problem : String) (token : Token) : Reading α :=
  fault { problem, mark := token.start, context := some (doing, start) }

def faultInside {α : Type} (doing problem : String) (token : Token) : Reading α := do
  faultIn doing ((← get).starts.headD {}) problem token

/-- A scalar that the text leaves out. -/
def emptyScalar (mark : Mark) : Reading (Event × Mark) := return (.scalar none none "" .plain, mark)

/-- Reads directives. Each kind may be given once, but a tag handle has to be new. -/
def readDirectives : Nat → Bool → Reading Unit
  | 0, _ => return
  | fuel + 1, versioned => do
    let token ← peek
    match token.kind with
    | .versionDirective major minor =>
      if versioned then fault { problem := "found duplicate %YAML directive", mark := token.start }
      else if major == 1 && (minor == 1 || minor == 2) then
        drop
        readDirectives fuel true
      else fault { problem := "found incompatible YAML document", mark := token.start }
    | .tagDirective handle meaning =>
      if (← get).tags.any fun tag => tag.1 == handle then
        fault { problem := "found duplicate %TAG directive", mark := token.start }
      else
        modify fun reader => { reader with tags := reader.tags ++ [(handle, meaning)] }
        drop
        readDirectives fuel versioned
    | _ => return

def dropDocumentEnds : Nat → Reading Unit
  | 0 => return
  | fuel + 1 => do
    if (← peek).kind == .documentEnd then
      drop
      dropDocumentEnds fuel

/-- Reads the start of a document. The first may begin without a line that says so. -/
def readDocumentStart (first : Bool) : Reading (Event × Mark) := do
  let fuel := (← get).queue.cursor.rest.length + (← get).queue.waiting.length + 1
  if !first then dropDocumentEnds fuel
  let token ← peek
  match token.kind, first with
  | .streamEnd, _ =>
    expect .nothing
    drop
    return (.streamEnd, token.start)
  | .versionDirective .., _ | .tagDirective .., _ | .documentStart, _ | _, false =>
    readDirectives fuel false
    let startLine ← peek
    if startLine.kind != .documentStart then
      fault { problem := "did not find expected <document start>", mark := startLine.start }
    else
      expectLater .documentEnd
      expect .documentContent
      drop
      return (.documentStart, token.start)
  | _, true =>
    expectLater .documentEnd
    expect .blockNode
    return (.documentStart, token.start)

def readDocumentEnd : Reading (Event × Mark) := do
  let token ← peek
  if token.kind == .documentEnd then drop
  modify fun reader => { reader with tags := [], expected := .laterDocument }
  return (.documentEnd, token.start)

structure Properties where
  anchor : Option String := none
  /-- The tag's handle and suffix, and where it stands. -/
  tag : Option (String × Bytes × Mark) := none
  start : Mark

def readProperties : Reading Properties := do
  let token ← peek
  match token.kind with
  | .anchor name =>
    drop
    let next ← peek
    match next.kind with
    | .tag handle suffix =>
      drop
      return { anchor := some name, tag := some (handle, suffix, next.start), start := token.start }
    | _ => return { anchor := some name, start := token.start }
  | .tag handle suffix =>
    drop
    let tag := some (handle, suffix, token.start)
    let next ← peek
    match next.kind with
    | .anchor name =>
      drop
      return { anchor := some name, tag, start := token.start }
    | _ => return { tag, start := token.start }
  | _ => return { start := token.start }

/-- The full tag that a handle and a suffix stand for. -/
def resolveTag (properties : Properties) : Reading (Option Bytes) := do
  match properties.tag with
  | none => return none
  | some (handle, suffix, mark) =>
    if handle.isEmpty then return some suffix
    match ((← get).tags ++ standardTags).find? fun tag => tag.1 == handle with
    | some (_, meaning) => return some (meaning ++ suffix)
    | none =>
      fault { problem := "found undefined tag handle", mark
              context := some ("while parsing a node", properties.start) }

/-- A scalar whose tag is a lone exclamation mark counts as one without a tag. -/
def scalarTag (tag : Option Bytes) : Option Bytes := tag.filter fun tag => tag != Utf8.encode "!"

/-- Reads a node, or the start of one. Inside brackets there are no blocks; the value of
a key may be a sequence that is not indented. -/
def readNode (block bare : Bool) : Reading (Event × Mark) := do
  let token ← peek
  if let .alias name := token.kind then
    expectOuter
    drop
    return (.alias name, token.start)
  let properties ← readProperties
  let anchor := properties.anchor
  let start := properties.start
  let tag ← resolveTag properties
  let token ← peek
  match token.kind, block with
  | .blockEntry, true =>
    if bare then
      expect .bareEntry
      return (.sequenceStart anchor tag, start)
    else empty properties tag token
  | .scalar text style, _ =>
    expectOuter
    drop
    return (.scalar anchor (scalarTag tag) text style, start)
  | .flowSequenceStart, _ =>
    expect (.flowEntry true)
    return (.sequenceStart anchor tag, start)
  | .flowMappingStart, _ =>
    expect (.flowKey true)
    return (.mappingStart anchor tag, start)
  | .blockSequenceStart, true =>
    expect (.blockEntry true)
    return (.sequenceStart anchor tag, start)
  | .blockMappingStart, true =>
    expect (.blockKey true)
    return (.mappingStart anchor tag, start)
  | _, _ => empty properties tag token
where
  empty (properties : Properties) (tag : Option Bytes) (token : Token) : Reading (Event × Mark) := do
    if properties.anchor.isSome || tag.isSome then
      expectOuter
      return (.scalar properties.anchor tag "" .plain, properties.start)
    else
      faultIn (if block then "while parsing a block node" else "while parsing a flow node")
        properties.start "did not find expected node content" token

/-- Reads a node that is followed by what is given, or an empty scalar where one of the
tokens comes that end a node. -/
def readNodeUnless (enders : List TokenKind) (block bare : Bool) (after : Expectation) (mark : Mark) :
    Reading (Event × Mark) := do
  if enders.contains (← peek).kind then
    expect after
    emptyScalar mark
  else
    expectLater after
    readNode block bare

def readDocumentContent : Reading (Event × Mark) := do
  let token ← peek
  match token.kind with
  | .versionDirective .. | .tagDirective .. | .documentStart | .documentEnd | .streamEnd =>
    expectOuter
    emptyScalar token.start
  | _ => readNode true false

def openCollection (first : Bool) : Reading Unit := do
  if first then
    enter (← peek).start
    drop

def closeCollection (event : Event) : Reading (Event × Mark) := do
  let token ← peek
  expectOuter
  leave
  drop
  return (event, token.start)

def readBlockEntry (first : Bool) : Reading (Event × Mark) := do
  openCollection first
  let token ← peek
  match token.kind with
  | .blockEntry =>
    drop
    readNodeUnless [.blockEntry, .blockEnd] true false (.blockEntry false) token.stop
  | .blockEnd => closeCollection .sequenceEnd
  | _ => faultInside "while parsing a block collection" "did not find expected '-' indicator" token

def readBareEntry : Reading (Event × Mark) := do
  let token ← peek
  if token.kind == .blockEntry then
    drop
    readNodeUnless [.blockEntry, .key, .value, .blockEnd] true false .bareEntry token.stop
  else
    expectOuter
    return (.sequenceEnd, token.start)

def readBlockKey (first : Bool) : Reading (Event × Mark) := do
  openCollection first
  let token ← peek
  match token.kind with
  | .key =>
    drop
    readNodeUnless [.key, .value, .blockEnd] true true .blockValue token.stop
  | .blockEnd => closeCollection .mappingEnd
  | _ => faultInside "while parsing a block mapping" "did not find expected key" token

def readBlockValue : Reading (Event × Mark) := do
  let token ← peek
  if token.kind == .value then
    drop
    readNodeUnless [.key, .value, .blockEnd] true true (.blockKey false) token.stop
  else
    expect (.blockKey false)
    emptyScalar token.start

/-- Between the parts of a collection in brackets there is a comma, and one may follow
the last part. -/
def readComma (first : Bool) (closing : TokenKind) (doing problem : String) : Reading Unit := do
  let token ← peek
  if !first && token.kind != closing then
    if token.kind == .flowEntry then drop else faultInside doing problem token

def readFlowEntry (first : Bool) : Reading (Event × Mark) := do
  openCollection first
  readComma first .flowSequenceEnd "while parsing a flow sequence" "did not find expected ',' or ']'"
  let token ← peek
  match token.kind with
  | .flowSequenceEnd => closeCollection .sequenceEnd
  | .key =>
    expect .pairKey
    drop
    return (.mappingStart none none, token.start)
  | _ =>
    expectLater (.flowEntry false)
    readNode false false

/-- Reads the key of a single pair in a sequence. Where there is none, what ends it is
passed over. -/
def readPairKey : Reading (Event × Mark) := do
  let token ← peek
  if [TokenKind.value, .flowEntry, .flowSequenceEnd].contains token.kind then
    drop
    expect .pairValue
    emptyScalar token.stop
  else
    expectLater .pairValue
    readNode false false

def readValueAfter (enders : List TokenKind) (after : Expectation) : Reading (Event × Mark) := do
  if (← peek).kind == .value then
    drop
    readNodeUnless enders false false after (← peek).start
  else
    expect after
    emptyScalar (← peek).start

def readPairEnd : Reading (Event × Mark) := do
  expect (.flowEntry false)
  return (.mappingEnd, (← peek).start)

def readFlowKey (first : Bool) : Reading (Event × Mark) := do
  openCollection first
  readComma first .flowMappingEnd "while parsing a flow mapping" "did not find expected ',' or '\x7d'"
  match (← peek).kind with
  | .flowMappingEnd => closeCollection .mappingEnd
  | .key =>
    drop
    readNodeUnless [.value, .flowEntry, .flowMappingEnd] false false .flowValue (← peek).start
  | _ =>
    expectLater .emptyFlowValue
    readNode false false

def next : Reading (Event × Mark) := do
  match (← get).expected with
  | .streamStart =>
    let token ← peek
    drop
    expect .firstDocument
    return (.streamStart, token.start)
  | .firstDocument => readDocumentStart true
  | .laterDocument => readDocumentStart false
  | .documentContent => readDocumentContent
  | .documentEnd => readDocumentEnd
  | .blockNode => readNode true false
  | .blockEntry first => readBlockEntry first
  | .bareEntry => readBareEntry
  | .blockKey first => readBlockKey first
  | .blockValue => readBlockValue
  | .flowEntry first => readFlowEntry first
  | .pairKey => readPairKey
  | .pairValue => readValueAfter [.flowEntry, .flowSequenceEnd] .pairEnd
  | .pairEnd => readPairEnd
  | .flowKey first => readFlowKey first
  | .flowValue => readValueAfter [.flowEntry, .flowMappingEnd] (.flowKey false)
  | .emptyFlowValue =>
    expect (.flowKey false)
    emptyScalar (← peek).start
  | .nothing => return (.streamEnd, (← get).queue.cursor.mark)

end EventReader

end MockKeeper.Yaml
