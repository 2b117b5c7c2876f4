import MockKeeper.Yaml.Event

/-! The first document of a YAML text as a tree. Where the text is at fault, the tree is
cut off, so that what stands before the fault can still be looked at. -/

namespace MockKeeper.Yaml

inductive ReadError
  | malformed (fault : Fault)
  | unknownAnchor (mark : Mark)
  | endOfInput
  | manyDocuments
  /-- A value that does not fit; its path from the root and its place may be known. -/
  | unfit (reason : String) (place : Option (Option String × Mark))
deriving DecidableEq, Repr

namespace ReadError

def message : ReadError → String
  | .malformed fault => fault.message
  | .unknownAnchor mark => "unknown anchor" ++ mark.suffix
  | .endOfInput => "EOF while parsing a value"
  | .manyDocuments => "deserializing from YAML containing more than one document is not supported"
  | .unfit reason none => reason
  | .unfit reason (some (none, mark)) => reason ++ mark.suffix
  | .unfit reason (some (some path, mark)) => path ++ ": " ++ reason ++ mark.suffix

end ReadError

/-- A part of a document. Anchors are numbered; an alias names one by its number. -/
inductive Node
  | scalar (anchor : Option Nat) (mark : Mark) (tag : Option Bytes) (text : String) (style : ScalarStyle)
  | sequence (anchor : Option Nat) (mark : Mark) (tag : Option Bytes) (items : List Node)
  | mapping (anchor : Option Nat) (mark : Mark) (tag : Option Bytes) (entries : List (Node × Node))
  | alias (target : Nat)
  | absent (mark : Mark)
  /-- The text is at fault from here on. -/
  | cut
deriving Repr, Inhabited

namespace Node

mutual

def isWhole : Node → Bool
  | .sequence _ _ _ items => areWhole items
  | .mapping _ _ _ entries => entriesWhole entries
  | .cut => false
  | _ => true

def areWhole : List Node → Bool
  | [] => true
  | item :: others => isWhole item && areWhole others

def entriesWhole : List (Node × Node) → Bool
  | [] => true
  | (key, value) :: others => isWhole key && isWhole value && entriesWhole others

end

mutual

/-- The last node with a given anchor, in the order of the text. -/
def lastAnchored? (anchor : Nat) : Node → Option Node
  | node@(.scalar own ..) => if own == some anchor then some node else none
  | node@(.sequence own _ _ items) =>
    (lastAmong? anchor items).or (if own == some anchor then some node else none)
  | node@(.mapping own _ _ entries) =>
    (lastAmongEntries? anchor entries).or (if own == some anchor then some node else none)
  | _ => none

def lastAmong? (anchor : Nat) : List Node → Option Node
  | [] => none
  | item :: others => (lastAmong? anchor others).or (lastAnchored? anchor item)

def lastAmongEntries? (anchor : Nat) : List (Node × Node) → Option Node
  | [] => none
  | (key, value) :: others =>
    ((lastAmongEntries? anchor others).or (lastAnchored? anchor value)).or (lastAnchored? anchor key)

end

end Node

/-- A collection that is still being read. Its parts are kept last one first. -/
inductive OpenNode
  | sequence (anchor : Option Nat) (mark : Mark) (tag : Option Bytes) (items : List Node)
  | mapping (anchor : Option Nat) (mark : Mark) (tag : Option Bytes) (entries : List (Node × Node))
      (key : Option Node)

namespace OpenNode

def close : OpenNode → Node
  | .sequence anchor mark tag items => .sequence anchor mark tag items.reverse
  | .mapping anchor mark tag entries _ => .mapping anchor mark tag entries.reverse

def add (node : Node) : OpenNode → OpenNode
  | .sequence anchor mark tag items => .sequence anchor mark tag (node :: items)
  | .mapping anchor mark tag entries none => .mapping anchor mark tag entries (some node)
  | .mapping anchor mark tag entries (some key) => .mapping anchor mark tag ((key, node) :: entries) none

/-- Cuts a collection off. A key without a value keeps its place. -/
def cutOff : OpenNode → OpenNode
  | .sequence anchor mark tag items => .sequence anchor mark tag (.cut :: items)
  | .mapping anchor mark tag entries key =>
    .mapping anchor mark tag ((key.getD .cut, .cut) :: entries) none

end OpenNode

structure Growth where
  opened : List OpenNode := []
  root : Option Node := none
  /-- The numbers of the anchors met so far. A name met again gets the number that the
  next new name will get as well. -/
  anchors : List (String × Nat) := []

namespace Growth

def add (growth : Growth) (node : Node) : Growth :=
  match growth.opened with
  | [] => { growth with root := some node }
  | inner :: outer => { growth with opened := inner.add node :: outer }

def number (growth : Growth) : Option String → Option Nat × Growth
  | none => (none, growth)
  | some name =>
    let n := growth.anchors.length
    let others := growth.anchors.filter fun entry => entry.1 != name
    (some n, { growth with anchors := (name, n) :: others })

def enter (growth : Growth) (node : OpenNode) : Growth :=
  { growth with opened := node :: growth.opened }

def leave (growth : Growth) : Growth :=
  match growth.opened with
  | [] => growth
  | inner :: outer => { growth with opened := outer }.add inner.close

/-- The tree as far as it has grown, cut off where it is not complete. -/
def finish (growth : Growth) : Node :=
  match growth.opened with
  | [] => growth.root.getD .cut
  | inner :: outer => outer.foldl (fun node frame => (frame.add node).close) inner.cutOff.close

end Growth

structure Document where
  root : Node
  /-- What is wrong with the text where the tree is cut off, or after the document. -/
  fault : Option ReadError := none
  followed : Bool := false

namespace Document

def isFollowed (reader : EventReader) : Bool :=
  match EventReader.next reader with
  | .ok ((.streamEnd, _), _) => false
  | _ => true

def readWithin : Nat → EventReader → Growth → Document
  | 0, _, growth => { root := growth.finish }
  | fuel + 1, reader, growth =>
    match EventReader.next reader with
    | .error fault => { root := growth.finish, fault := some (.malformed fault) }
    | .ok ((event, mark), reader) =>
      match event with
      | .streamStart | .documentStart => readWithin fuel reader growth
      | .streamEnd => { root := growth.root.getD (.absent mark) }
      | .documentEnd => { root := growth.finish, followed := isFollowed reader }
      | .alias name =>
        match growth.anchors.lookup name with
        | some target => readWithin fuel reader (growth.add (.alias target))
        | none => { root := growth.finish, fault := some (.unknownAnchor mark) }
      | .scalar anchor tag text style =>
        let (anchor, growth) := growth.number anchor
        readWithin fuel reader (growth.add (.scalar anchor mark tag text style))
      | .sequenceStart anchor tag =>
        let (anchor, growth) := growth.number anchor
        readWithin fuel reader (growth.enter (.sequence anchor mark tag []))
      | .mappingStart anchor tag =>
        let (anchor, growth) := growth.number anchor
        readWithin fuel reader (growth.enter (.mapping anchor mark tag [] none))
      | .sequenceEnd | .mappingEnd => readWithin fuel reader growth.leave

/-- The first document of a text. A forbidden character anywhere spoils the whole. -/
def ofText (text : String) : Document :=
  let chars := text.toList
  match forbiddenOffset? 0 chars with
  | some offset =>
    { root := .cut
      fault := some (.malformed { problem := "control characters are not allowed", offset }) }
  | none => readWithin (32 * (chars.length + 4)) (.ofText chars) {}

end Document

end MockKeeper.Yaml
