import MockKeeper.Yaml.Meaning
import MockKeeper.Yaml.Node

/-! Values read from a YAML document. What does not fit is reported with its path and
its place. -/

namespace MockKeeper.Yaml

/-- Where a value is read: the document, and the path from its root. -/
structure Site where
  document : Document
  path : Option String := none

namespace Site

/-- The site of an entry of a mapping. A key that is no scalar is shown by a mark. -/
def entry (site : Site) (key : Option String) : Site :=
  let name := key.getD "?"
  { site with path := some (match site.path with
      | none => name
      | some path => path ++ "." ++ name) }

def item (site : Site) (index : Nat) : Site :=
  { site with path := some (site.path.getD "." ++ s!"[{index}]") }

/-- The node itself, or the one that an alias stands for. -/
def resolve (site : Site) : Node → Node
  | .alias target => (site.document.root.lastAnchored? target).getD .cut
  | node => node

def cutError (site : Site) : ReadError := site.document.fault.getD .endOfInput

end Site

abbrev Decoder (α : Type) := Site → Node → Except ReadError α

namespace Decoder

/-- Notes path and place of a misfit, unless they are known already. -/
def located {α : Type} (site : Site) (mark : Mark) : Except ReadError α → Except ReadError α
  | .error (.unfit reason none) => .error (.unfit reason (some (site.path, mark)))
  | result => result

def unfit {α : Type} (reason : String) : Except ReadError α := .error (.unfit reason none)

def wrongType {α : Type} (found expected : String) : Except ReadError α :=
  unfit s!"invalid type: {found}, expected {expected}"

def wrongValue {α : Type} (found expected : String) : Except ReadError α :=
  unfit s!"invalid value: {found}, expected {expected}"

def coreTag (name : String) : Bytes := Utf8.encode ("tag:yaml.org,2002:" ++ name)

def describeText (text : String) : String := "string " ++ Text.quoted text

/-- Reports a scalar where something else is expected. A tag can make a misfit of its
own. -/
def wrongScalar {α : Type} (tag : Option Bytes) (text : String) (style : ScalarStyle) (expected : String) :
    Except ReadError α :=
  let untagged := wrongType (Meaning.ofText text).describe expected
  match tag with
  | none => if style == .plain then untagged else wrongType (describeText text) expected
  | some tag =>
    if tag == coreTag "bool" then
      match Meaning.boolean? text with
      | some value => wrongType (Meaning.boolean value).describe expected
      | none => wrongValue (describeText text) "a boolean"
    else if tag == coreTag "int" then
      match Meaning.integer? text with
      | some value => wrongType (Meaning.integer value).describe expected
      | none => wrongValue (describeText text) "an integer"
    else if tag == coreTag "float" then
      match Meaning.float? text with
      | some shown => wrongType (Meaning.float shown).describe expected
      | none => wrongValue (describeText text) "a float"
    else if tag == coreTag "null" then
      if Meaning.isNullText text then wrongType Meaning.null.describe expected
      else wrongValue (describeText text) "null"
    else if tag.head? == some '!'.toUInt8 && style == .plain then untagged
    else wrongType (describeText text) expected

def wrongNode {α : Type} (site : Site) (node : Node) (expected : String) : Except ReadError α :=
  match node with
  | .scalar _ mark tag text style => located site mark (wrongScalar tag text style expected)
  | .sequence _ mark .. => located site mark (wrongType "sequence" expected)
  | .mapping _ mark .. => located site mark (wrongType "map" expected)
  | .absent _ => .error .endOfInput
  | .alias _ | .cut => .error site.cutError

def text (expected : String) : Decoder String := fun site node =>
  match site.resolve node with
  | .scalar _ _ _ text _ => .ok text
  | node => wrongNode site node expected

/-- A natural number below a bound, which is named by its type. An integer may be
written as a literal block if it is tagged as one. -/
def natural (bound : Nat) (name : String) : Decoder Nat := fun site node =>
  match site.resolve node with
  | node@(.scalar _ mark tag text style) =>
    let tagged := style == .literal && tag == some (coreTag "int")
    match (if style == .plain || tagged then Meaning.natural64? text else none) with
    | some n =>
      if n < bound then .ok n
      else located site mark (wrongValue (Meaning.integer n).describe name)
    | none => wrongNode site node name
  | node => wrongNode site node name

/-- A value that may be left out: nothing stands for none. -/
def optional {α : Type} (decoder : Decoder α) : Decoder (Option α) := fun site node =>
  let node := site.resolve node
  match node with
  | .scalar _ _ tag text .plain =>
    match tag with
    | some tag =>
      if tag == coreTag "null" then
        if Meaning.isNullText text then .ok none else wrongValue (describeText text) "null"
      else some <$> decoder site node
    | none =>
      if text.isEmpty || Meaning.isNullText text then .ok none else some <$> decoder site node
  | .absent _ => .ok none
  | .cut => .error site.cutError
  | _ => some <$> decoder site node

def items {α : Type} (decoder : Decoder α) (site : Site) : Nat → List Node → Except ReadError (List α)
  | _, [] => .ok []
  | index, node :: others => do
    if let .cut := node then .error site.cutError
    let first ← decoder (site.item index) node
    let rest ← items decoder site (index + 1) others
    .ok (first :: rest)

/-- A sequence of values. A value left out is an empty sequence. -/
def list {α : Type} (decoder : Decoder α) : Decoder (List α) := fun site node =>
  match site.resolve node with
  | .sequence _ mark _ nodes => located site mark (items decoder site 0 nodes)
  | .absent _ => .ok []
  | node@(.scalar _ _ _ text style) =>
    if text.isEmpty && style == .plain then .ok [] else wrongNode site node "a sequence"
  | node => wrongNode site node "a sequence"

def orList (names : List String) : String := " or ".intercalate (names.map fun name => s!"`{name}`")

def pick {α : Type} (variants : List (String × α)) (name : String) : Except ReadError α :=
  match variants.lookup name with
  | some value => .ok value
  | none => unfit s!"unknown variant `{name}`, expected {orList (variants.map Prod.fst)}"

/-- The name that a tag of the document's own gives. -/
def tagName? (tag : Option Bytes) : Option String :=
  match tag with
  | some (first :: rest) =>
    if first == '!'.toUInt8 then Utf8.decode? (if rest.isEmpty then [first] else rest) else none
  | _ => none

def nothing (site : Site) (node : Node) : Except ReadError Unit :=
  match node with
  | .scalar _ mark _ text style =>
    if style == .plain && (text.isEmpty || Meaning.isNullText text) then .ok ()
    else located site mark (wrongValue (describeText text) "null")
  | node => wrongNode site node "unit"

/-- One of several names, written as a scalar or as a tag. -/
def variant {α : Type} (variants : List (String × α)) : Decoder α := fun site node =>
  let node := site.resolve node
  let tagged (tag : Option Bytes) (otherwise : Except ReadError α) : Except ReadError α :=
    match tagName? tag with
    | none => otherwise
    | some name => do
      let value ← pick variants name
      nothing site node
      .ok value
  match node with
  | .scalar _ mark tag text _ => tagged tag (located site mark (pick variants text))
  | .sequence _ mark tag _ =>
    tagged tag (located site mark (wrongType "sequence" "a YAML tag starting with '!'"))
  | .mapping _ mark tag _ => tagged tag (located site mark (wrongType "map" "a YAML tag starting with '!'"))
  | .absent _ => .error .endOfInput
  | .alias _ | .cut => .error site.cutError

/-- How the entries of a record are read: each by its name, into what is known so far. -/
abbrev Fields (σ : Type) := List (String × (σ → Decoder σ))

def field {σ α : Type} (name : String) (decoder : Decoder α) (put : σ → α → σ) :
    String × (σ → Decoder σ) :=
  (name, fun known site node => put known <$> decoder site node)

/-- Reads entries in order. A name that is no field's is passed over with its value; a
field's name may not come twice. -/
def entries {σ : Type} (fields : Fields σ) (site : Site) :
    List String → σ → List (Node × Node) → Except ReadError σ
  | _, known, [] => .ok known
  | seen, known, (key, value) :: others => do
    if let .cut := key then .error site.cutError
    let own := match key with
      | .scalar _ _ _ text _ => some text
      | _ => none
    let name ← text "field identifier" site key
    match fields.lookup name with
    | none =>
      if value.isWhole then entries fields site seen known others else .error site.cutError
    | some read =>
      if seen.contains name then unfit s!"duplicate field `{name}`"
      else
        let known ← read known (site.entry own) value
        entries fields site (name :: seen) known others

def missing {α : Type} (name : String) : Except ReadError α := unfit s!"missing field `{name}`"

/-- A record: a mapping, or nothing at all, which counts as a mapping without entries. -/
def record {σ α : Type} (name : String) (fields : Fields σ) (start : σ)
    (finish : σ → Except ReadError α) : Decoder α := fun site node =>
  let node := site.resolve node
  match node with
  | .mapping _ mark _ nodes => located site mark (entries fields site [] start nodes >>= finish)
  | .absent mark => located site mark (finish start)
  | .scalar _ mark _ text style =>
    if text.isEmpty && style == .plain then located site mark (finish start)
    else wrongNode site node ("struct " ++ name)
  | _ => wrongNode site node ("struct " ++ name)

end Decoder

/-- The value that a text holds. The text has to be in order and hold nothing else. -/
def read {α : Type} (decoder : Decoder α) (text : String) : Except ReadError α := do
  let document := Document.ofText text
  let value ← decoder { document } document.root
  match document.fault with
  | some fault => .error fault
  | none => if document.followed then .error .manyDocuments else .ok value

end MockKeeper.Yaml
